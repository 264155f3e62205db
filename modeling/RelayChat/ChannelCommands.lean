import RelayChat.Command
import RelayChat.Names
import RelayChat.Words

/-!
# Commands on channels

Coming into a channel, leaving it, and its topic. Whoever names a channel that
does not exist creates it by coming in; the last one to leave removes it. All
who are on a channel hear of each change, the sender included.
-/

namespace RelayChat.ChannelCommands

/-- The topic of a channel as a reply. -/
def topicReply (client channel topic : String) : Message :=
  if topic.isEmpty then Reply.noTopic client channel else Reply.topic client channel topic

/-- What the newcomer causes: everybody on the channel hears of it, and the
newcomer alone learns the topic and who is there. -/
def announceJoin (site : Site) (d : Directory) (id : Handle) (channel : Channel)
    (name : String) : List (Outgoing Message) :=
  let client := d.address id
  Outgoing.sendAll (d.recipients channel none)
      ((Message.ofBody (.join name)).withOrigin (d.origin id)) ++
    [site.reply id (topicReply client name channel.topic),
      site.reply id (Reply.names client name channel.namesList),
      site.reply id (Reply.endOfNames client name)]

/-- Coming into a channel. Nothing happens if the sender is there already. -/
def join (site : Site) (d : Directory) (id : Handle) (tail : String) : Outcome :=
  let name := Words.firstParameter tail
  let client := d.address id
  if name.isEmpty then .refused d .needMoreParams
  else if !Names.isChannelName name then .refused d (.noSuchChannel name)
  else match d.channel? name with
    | some channel =>
      if channel.isMember client then .done d []
      else
        let joined := channel.add client
        let after := d.updateChannel name fun _ => joined
        .done after (announceJoin site after id joined name)
    | none =>
      let created := Channel.create name client
      let after := d.putChannel created
      .done after (announceJoin site after id created name)

/-- Leaving a channel, with or without a reason. -/
def part (d : Directory) (id : Handle) (tail : String) : Outcome :=
  let (name, rest) := Words.split tail
  let reason := Words.trailing rest
  let client := d.address id
  if name.isEmpty then .refused d .needMoreParams
  else match d.channel? name with
    | none => .refused d (.noSuchChannel name)
    | some channel =>
      if !channel.isMember client then .refused d (.notOnChannel name)
      else
        let notice := Message.ofBody (.part name (if reason.isEmpty then none else some reason))
        .done (d.leaveChannel name client)
          (Outgoing.sendAll (d.recipients channel none) (notice.withOrigin (d.origin id)))

/-- The topic: asked for when nothing follows the channel, and set to what
follows otherwise. Every member may set it. -/
def topic (site : Site) (d : Directory) (id : Handle) (tail : String) : Outcome :=
  let (name, rest) := Words.split tail
  let client := d.address id
  if name.isEmpty then .refused d .needMoreParams
  else match d.channel? name with
    | none => .refused d (.noSuchChannel name)
    | some channel =>
      if !channel.isMember client then .refused d (.notOnChannel name)
      else if rest.isEmpty then
        .done d [site.reply id (topicReply client name channel.topic)]
      else
        let text := Words.trailing rest
        .done (d.updateChannel name fun c => { c with topic := text })
          (Outgoing.sendAll (d.recipients channel none)
            ((Message.ofBody (.topic name text)).withOrigin (d.origin id)))

end RelayChat.ChannelCommands
