import RelayChat.Outgoing

/-!
# Properties of calls

What is called for in an event is put together from several lists of calls, and most of
what is said of such a list is said of each call by itself. `Outgoing.All` says that every
call of a list has a property, so that it is enough to look at single calls. The
properties that several developments need are here: whom a call is for (`IsFor`), that it
closes no connection (`Keeps`), and that it says nothing of a certain kind (`Spares`).
-/

namespace RelayChat

namespace Outgoing

variable {α : Type}

/-- Every one of these calls has the property. -/
def All (P : Outgoing α → Prop) (calls : List (Outgoing α)) : Prop :=
  ∀ call ∈ calls, P call

namespace All

variable {P Q : Outgoing α → Prop} {call : Outgoing α} {calls more : List (Outgoing α)}

theorem nil : All P [] :=
  List.forall_mem_nil P

theorem single (h : P call) : All P [call] :=
  List.forall_mem_singleton.mpr h

theorem cons (h : P call) (hmore : All P more) : All P (call :: more) :=
  List.forall_mem_cons.mpr ⟨h, hmore⟩

theorem append (h : All P calls) (hmore : All P more) : All P (calls ++ more) :=
  List.forall_mem_append.mpr ⟨h, hmore⟩

/-- One call for each of a list. -/
theorem map {β : Type} {f : β → Outgoing α} {items : List β} (h : ∀ item ∈ items, P (f item)) :
    All P (items.map f) :=
  List.forall_mem_map.mpr h

/-- One payload for several connections. -/
theorem sendAll {payload : α} (ids : List Handle) (h : ∀ who, P (.send who payload)) :
    All P (Outgoing.sendAll ids payload) :=
  map fun who _ => h who

theorem mono (h : All P calls) (hsub : ∀ call, P call → Q call) : All Q calls :=
  fun call hmem => hsub call (h call hmem)

end All

/-- The call is for one connection, and it is this one. -/
inductive IsFor (id : Handle) : Outgoing α → Prop where
  /-- Something is sent to it. -/
  | send (payload : α) : IsFor id (.send id payload)
  /-- It is closed. -/
  | disconnect : IsFor id (.disconnect id)

/-- The call closes no connection. -/
def Keeps : Outgoing α → Prop
  | .disconnect _ => False
  | _ => True

/-- The call says nothing that has the property. -/
def Spares (p : α → Bool) : Outgoing α → Prop
  | .send _ payload => p payload = false
  | .broadcast payload => p payload = false
  | .disconnect _ => True

end Outgoing

end RelayChat
