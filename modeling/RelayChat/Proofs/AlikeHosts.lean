import RelayChat.Proofs.MultiplexerActions

/-!
# Systems that answer alike

The multiplexer knows the system underneath only by its answers. If the states of one
system are taken to those of another one such that the same is asked for with the same
answers (`Host.Alike`), then a server on the first system does what the same server does
on the second one (`run_onHost`). Function by function, in the order of the calls, it
makes no difference whether the state of the system is taken over before or after.
-/

namespace RelayChat

/-- Two systems answer alike when asked about connections, where `f` takes the states of
the first to those of the second. -/
structure Host.Alike {ε' ε : Type} (f : ε' → ε) (net' : Host ε') (net : Host ε) : Prop where
  /-- They accept alike. -/
  accept : ∀ host, net.accept (f host) = Prod.map id f (net'.accept host)
  /-- They read alike. -/
  read : ∀ host who, net.read (f host) who = Prod.map id f (net'.read host who)
  /-- They write alike. -/
  write : ∀ host who bytes, net.write (f host) who bytes = Prod.map id f (net'.write host who bytes)
  /-- They watch alike. -/
  arm : ∀ host who writes, net.arm (f host) who writes = Prod.map id f (net'.arm host who writes)

namespace Multiplexer

variable {σ ε' ε : Type}

/-- The server on another system, whose state is made from the one that it has. -/
def onHost (f : ε' → ε) (m : Multiplexer σ ε') : Multiplexer σ ε :=
  { m with host := f m.host }

/-- What a wait does with what the poller tells. -/
def dealt (net : Host ε) (handler : Handler σ) (m : Multiplexer σ ε) :
    PollAnswer → Multiplexer σ ε × Except ServerError Unit
  | .interrupted => (m, .ok ())
  | .failed source => (m, .error (.poll source))
  | .ready sockets => (settle net handler (sockets.foldl (serve net handler) m), .ok ())

theorem wait_of_not_poller {net : Host ε} {handler : Handler σ} {m : Multiplexer σ ε}
    (h : m.poller = false) : m.wait net handler = (m, .error .notActive) := by
  rw [wait, h]
  rfl

theorem wait_of_poller {net : Host ε} {handler : Handler σ} {m : Multiplexer σ ε}
    (h : m.poller = true) :
    m.wait net handler =
      dealt net handler { m with host := (net.poll m.host).2 } (net.poll m.host).1 := by
  rw [wait, h]
  rfl

section Serving

variable {f : ε' → ε} {net' : Host ε'} {net : Host ε} {handler : Handler σ}

theorem raise_onHost (m : Multiplexer σ ε') (event : Event) :
    raise handler (m.onHost f) event = (raise handler m event).onHost f := by
  simp only [raise, foldl_call]
  rfl

theorem close_onHost (m : Multiplexer σ ε') (id : Handle) (cause : Closing) :
    close handler (m.onHost f) id cause = (close handler m id cause).onHost f := by
  cases hc : m.board.get? id with
  | none =>
    have hc' : (m.onHost f).board.get? id = none := hc
    rw [close, close, hc, hc']
  | some c =>
    have hc' : (m.onHost f).board.get? id = some c := hc
    rw [close_of_get? hc, close_of_get? hc', ← raise_onHost]
    rfl

variable (h : net'.Alike f net)

include h

theorem flushed_onHost (m : Multiplexer σ ε') (id : Handle) (c : Connection) :
    (m.onHost f).flushed net id c = m.flushed net' id c := by
  have hwrite : net.write (m.onHost f).host id c.outbound = _ := h.write m.host id c.outbound
  rw [flushed, hwrite]
  rfl

theorem written_onHost (m : Multiplexer σ ε') (id : Handle) (c : Connection) :
    (m.onHost f).written net id c = (m.written net' id c).onHost f := by
  have hwrite : net.write (m.onHost f).host id c.outbound = _ := h.write m.host id c.outbound
  have hwrote : (m.onHost f).wroteOut net id c = (m.wroteOut net' id c).onHost f := by
    rw [wroteOut, flushed_onHost h, hwrite]
    rfl
  rw [written, written, flushed_onHost h, hwrote, apply_ite (onHost f)]
  rfl

theorem flush_onHost (m : Multiplexer σ ε') (id : Handle) (c : Connection) :
    flush net (m.onHost f) id c = ((flush net' m id c).1.onHost f, (flush net' m id c).2) := by
  by_cases hempty : c.outbound.isEmpty = true
  · rw [flush_of_isEmpty hempty, flush_of_isEmpty hempty]
  · rw [flush_of_not_isEmpty hempty, flush_of_not_isEmpty hempty, written_onHost h,
      flushed_onHost h]

theorem watch_onHost (m : Multiplexer σ ε') (id : Handle) (c : Connection) :
    watch net handler (m.onHost f) id c = (watch net' handler m id c).onHost f := by
  have harm : net.arm (m.onHost f).host id c.hasOutput = _ := h.arm m.host id c.hasOutput
  simp only [watch, harm, Prod.map_fst, Prod.map_snd, apply_ite (onHost f), ← close_onHost]
  rfl

theorem settleOne_onHost (m : Multiplexer σ ε') (id : Handle) :
    settleOne net handler (m.onHost f) id = (settleOne net' handler m id).onHost f := by
  have hboard : (m.onHost f).board.get? id = m.board.get? id := rfl
  rw [settleOne, settleOne, hboard]
  cases m.board.get? id with
  | none => rfl
  | some c =>
    simp only [flush_onHost h, watch_onHost h, close_onHost, apply_ite (onHost f)]

theorem settleWithin_onHost (passes : Nat) (m : Multiplexer σ ε') :
    settleWithin net handler passes (m.onHost f) =
      (settleWithin net' handler passes m).onHost f := by
  induction passes generalizing m with
  | zero => rfl
  | succ passes ih =>
    have hpass : settlePass net handler (m.onHost f) = (settlePass net' handler m).onHost f := by
      unfold settlePass
      rw [← List.foldl_hom (onHost f) fun m id => settleOne_onHost h m id]
      rfl
    rw [settleWithin, settleWithin, hpass, ih, apply_ite (onHost f)]
    rfl

theorem settle_onHost (m : Multiplexer σ ε') :
    settle net handler (m.onHost f) = (settle net' handler m).onHost f :=
  settleWithin_onHost h (m.board.count + 2) m

theorem takeConnection_onHost (m : Multiplexer σ ε') :
    takeConnection net handler (m.onHost f) = (takeConnection net' handler m).onHost f := by
  rw [takeConnection, takeConnection, ← settle_onHost h, ← raise_onHost]
  rfl

theorem acceptEach_onHost (answers : List AcceptAnswer) (m : Multiplexer σ ε') :
    acceptEach net handler answers (m.onHost f) = (acceptEach net' handler answers m).onHost f := by
  induction answers generalizing m with
  | nil => rfl
  | cons answer answers ih =>
    cases answer with
    | arrived watched =>
      cases watched with
      | true => exact (congrArg _ (takeConnection_onHost h m)).trans (ih _)
      | false => exact ih { m with nextHandle := m.nextHandle + 1 }
    | interrupted => exact ih m
    | failed => rfl

theorem acceptArrivals_onHost (m : Multiplexer σ ε') :
    acceptArrivals net handler (m.onHost f) = (acceptArrivals net' handler m).onHost f := by
  have haccept : net.accept (m.onHost f).host = _ := h.accept m.host
  simp only [acceptArrivals, haccept, Prod.map_fst, Prod.map_snd, apply_ite (onHost f),
    ← acceptEach_onHost h]
  rfl

theorem dispatch_onHost (id : Handle) (lines : List String) (m : Multiplexer σ ε') :
    dispatch net handler id lines (m.onHost f) = (dispatch net' handler id lines m).onHost f := by
  induction lines generalizing m with
  | nil => rfl
  | cons line lines ih =>
    rw [dispatch, dispatch, raise_onHost, settle_onHost h, ih, apply_ite (onHost f)]
    rfl

theorem readEach_onHost (id : Handle) (answers : List ReadAnswer) (m : Multiplexer σ ε') :
    readEach net handler id answers (m.onHost f) =
      (readEach net' handler id answers m).onHost f := by
  induction answers generalizing m with
  | nil => rfl
  | cons answer answers ih =>
    have hboard : (m.onHost f).board.get? id = m.board.get? id := rfl
    rw [readEach, readEach, hboard]
    cases m.board.get? id with
    | none => rfl
    | some c =>
      cases answer with
      | received piece =>
        have htaken : takeIn net handler (m.onHost f) id c piece.bytes =
            (takeIn net' handler m id c piece.bytes).onHost f := by
          rw [takeIn, takeIn, ← dispatch_onHost h]
          rfl
        dsimp only
        rw [htaken, ih, apply_ite (onHost f)]
      | interrupted =>
        dsimp only
        rw [ih, apply_ite (onHost f)]
      | finished =>
        dsimp only
        rw [close_onHost, apply_ite (onHost f)]
      | failed =>
        dsimp only
        rw [close_onHost, apply_ite (onHost f)]

theorem readAll_onHost (m : Multiplexer σ ε') (id : Handle) :
    readAll net handler (m.onHost f) id = (readAll net' handler m id).onHost f := by
  have hread : net.read (m.onHost f).host id = _ := h.read m.host id
  simp only [readAll, hread, Prod.map_fst, Prod.map_snd, apply_ite (onHost f),
    ← readEach_onHost h]
  rfl

theorem writeAll_onHost (m : Multiplexer σ ε') (id : Handle) :
    writeAll net handler (m.onHost f) id = (writeAll net' handler m id).onHost f := by
  have hboard : (m.onHost f).board.get? id = m.board.get? id := rfl
  rw [writeAll, writeAll, hboard]
  cases m.board.get? id with
  | none => rfl
  | some c =>
    simp only [flush_onHost h, close_onHost, apply_ite (onHost f)]
    rfl

theorem serve_onHost (m : Multiplexer σ ε') (socket : Readiness) :
    serve net handler (m.onHost f) socket = (serve net' handler m socket).onHost f := by
  simp only [serve, acceptArrivals_onHost h, readAll_onHost h, ← apply_ite (onHost f),
    close_onHost, writeAll_onHost h]

theorem callAll_onHost (m : Multiplexer σ ε') (calls : List (Outgoing String)) :
    callAll net handler (m.onHost f) calls = (callAll net' handler m calls).onHost f := by
  rw [callAll, callAll, ← settle_onHost h, foldl_call, foldl_call]
  rfl

theorem dealt_onHost (m : Multiplexer σ ε') (answer : PollAnswer) :
    dealt net handler (m.onHost f) answer =
      ((dealt net' handler m answer).1.onHost f, (dealt net' handler m answer).2) := by
  have hserved (sockets : List Readiness) :
      sockets.foldl (serve net handler) (m.onHost f) =
        (sockets.foldl (serve net' handler) m).onHost f :=
    List.foldl_hom (onHost f) fun m socket => serve_onHost h m socket
  cases answer with
  | ready sockets => rw [dealt, dealt, hserved, settle_onHost h]
  | interrupted => rfl
  | failed => rfl

theorem wait_onHost (hpoll : ∀ host, net.poll (f host) = Prod.map id f (net'.poll host))
    (m : Multiplexer σ ε') :
    wait net handler (m.onHost f) =
      ((wait net' handler m).1.onHost f, (wait net' handler m).2) := by
  have hpolled : net.poll (m.onHost f).host = _ := hpoll m.host
  cases hpoller : m.poller with
  | false => rw [wait_of_not_poller hpoller, wait_of_not_poller (m := m.onHost f) hpoller]
  | true =>
    rw [wait_of_poller hpoller, wait_of_poller (m := m.onHost f) hpoller, ← dealt_onHost h, hpolled]
    rfl

end Serving

theorem activate_onHost {f : ε' → ε} {net' : Host ε'} {net : Host ε}
    (hbind : ∀ host wanted, net.bind (f host) wanted = Prod.map id f (net'.bind host wanted))
    (m : Multiplexer σ ε') :
    activate net (m.onHost f) = ((activate net' m).1.onHost f, (activate net' m).2) := by
  have hlisten : (m.onHost f).listen = m.listen := rfl
  cases hpoller : m.poller with
  | true =>
    have hpoller' : (m.onHost f).poller = true := hpoller
    rw [activate, activate, if_pos hpoller, if_pos hpoller']
  | false =>
    have hpoller' : (m.onHost f).poller = false := hpoller
    rw [activate, activate, hpoller, hpoller', hlisten]
    cases m.listen.endpoint with
    | error e => rfl
    | ok wanted =>
      have hbound : net.bind (m.onHost f).host wanted = _ := hbind m.host wanted
      dsimp only
      rw [hbound]
      cases net'.bind m.host wanted with
      | mk result host => cases result <;> rfl

end Multiplexer

end RelayChat
