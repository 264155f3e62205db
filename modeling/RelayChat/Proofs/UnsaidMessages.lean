import RelayChat.Proofs.Calls
import RelayChat.Proofs.CommandEffects

/-!
# What calls do not say

`Lacks` says of calls that no message of theirs has some property. It is a matter of
each call by itself, so it is shown of single calls and of the few lists that several
commands share: a login, and what a newcomer to a channel causes. From these it follows of all
commands that they say nothing which is kept for refusals and for connections that go
(`Dispatch.Effect.lacks_isExceptional`).
-/

namespace RelayChat

/-- None of the messages of these calls has the property. -/
def Lacks (p : Message → Bool) (calls : List (Outgoing Message)) : Prop :=
  Outgoing.All (Outgoing.Spares p) calls

namespace Lacks

variable {p : Message → Bool} {message : Message} {calls : List (Outgoing Message)}

theorem eq_false (h : Lacks p calls)
    (hmem : (∃ who, .send who message ∈ calls) ∨ .broadcast message ∈ calls) :
    p message = false := by
  rcases hmem with ⟨who, hmem⟩ | hmem
  · exact h _ hmem
  · exact h _ hmem

/-- Nor have they a property that comes with it. -/
theorem weaken {q : Message → Bool} (h : Lacks p calls)
    (hq : ∀ message, q message = true → p message = true) : Lacks q calls := by
  have hspares (message : Message) (hnot : p message = false) : q message = false := by
    rw [← Bool.not_eq_true] at hnot ⊢
    exact fun hm => hnot (hq message hm)
  refine h.mono fun call hcall => ?_
  cases call with
  | send who message => exact hspares message hcall
  | broadcast message => exact hspares message hcall
  | disconnect => trivial

end Lacks

/-! ## Lists of calls that several commands share -/

/-- A property that no reply has which tells of success. -/
def SparesSuccess (p : Message → Bool) : Prop :=
  ∀ origin number args, Numeric.isError number = false → p ⟨origin, .numeric number args⟩ = false

section Shared

variable {p : Message → Bool} {site : Site} {d : Directory} {id : Handle}

/-- A login is answered by replies that tell of success. -/
theorem lacks_logIn (hp : SparesSuccess p) : Lacks p (Registration.logIn site d id).2 := by
  rcases Registration.logIn_cases site d id with ⟨he, -⟩ | ⟨s, -, -, -, he⟩
  · rw [he]
    exact .nil
  · rw [he]
    refine .map fun message hmem => ?_
    simp only [Registration.greeting, List.mem_cons, List.not_mem_nil, or_false] at hmem
    rcases hmem with rfl | rfl | rfl | rfl <;> exact hp _ _ _ rfl

/-- So is a question for a topic. -/
theorem lacks_topicReply (hp : SparesSuccess p) (client name topic : String) :
    Lacks p [site.reply id (ChannelCommands.topicReply client name topic)] := by
  unfold ChannelCommands.topicReply
  split
  · exact .single (hp _ _ _ rfl)
  · exact .single (hp _ _ _ rfl)

/-- So is a newcomer to a channel. -/
theorem lacks_joinReplies (hp : SparesSuccess p) (client : String) (channel : Channel)
    (name : String) :
    Lacks p [site.reply id (ChannelCommands.topicReply client name channel.topic),
      site.reply id (Reply.names client name channel.namesList),
      site.reply id (Reply.endOfNames client name)] := by
  have htopic : Lacks p [site.reply id (ChannelCommands.topicReply client name channel.topic)] :=
    lacks_topicReply hp client name channel.topic
  have hnames : Lacks p [site.reply id (Reply.names client name channel.namesList)] :=
    .single (hp _ _ _ rfl)
  have hend : Lacks p [site.reply id (Reply.endOfNames client name)] :=
    .single (hp _ _ _ rfl)
  exact (htopic.append hnames).append hend

/-- All that is said in a refusal are its replies. -/
theorem Dispatch.lacks_rejection {verb : Verb} {refusal : Refusal}
    (h : ∀ message ∈ refusal.replies site.name (d.address id) verb.spelling, p message = false) :
    Lacks p (rejection site d id verb refusal) := by
  refine Outgoing.All.append (.map h) ?_
  split
  · exact .single trivial
  · exact .nil

end Shared

/-! ## What no command says that succeeds -/

/-- Whether a message is the reply to a refusal, or tells that somebody is gone. -/
def Message.isExceptional (message : Message) : Bool :=
  match message.body with
  | .numeric number _ => number.isError
  | .quit _ => true
  | _ => false

theorem sparesSuccess_isExceptional : SparesSuccess Message.isExceptional :=
  fun _ _ _ h => h

/-- Commands refuse nothing by themselves, and tell of nobody that is gone. -/
theorem Dispatch.Effect.lacks_isExceptional {site : Site} {d : Directory} {id : Handle}
    {tail : String} {verb : Verb} {outcome : Outcome}
    (h : Dispatch.Effect site d id tail verb outcome) :
    Lacks Message.isExceptional outcome.calls := by
  have hsuccess := sparesSuccess_isExceptional
  cases h with
  | idle => exact .nil
  | refused => exact .nil
  | wrongPassword => exact .nil
  | password => exact .nil
  | capEnd => exact .nil
  | capOther => exact .single rfl
  | nickname =>
    dsimp only [Outcome.done]
    split
    · exact .single rfl
    · exact .nil
  | named => exact lacks_logIn hsuccess
  | namedUnproven => exact .nil
  | joined => exact .append (.sendAll _ fun _ => rfl) (lacks_joinReplies hsuccess _ _ _)
  | created => exact .append (.sendAll _ fun _ => rfl) (lacks_joinReplies hsuccess _ _ _)
  | left => exact .sendAll _ fun _ => rfl
  | topicShown => exact lacks_topicReply hsuccess _ _ _
  | topicSet => exact .sendAll _ fun _ => rfl
  | @told holder => exact .single rfl
  | spoken => exact .sendAll _ fun _ => rfl
  | pong => exact .single rfl
  | quit => exact .cons rfl (.single trivial)

end RelayChat
