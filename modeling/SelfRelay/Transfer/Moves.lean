import SelfRelay.Transfer.Engine

/-!
# The moves of the engine

What a step of the engine can do, said once: `Engine.Moves` has a constructor for every way that an
event goes, with the checks that lead there, and `step_moves` inverts `Engine.step` into it.  What
every step keeps is proved by cases on the moves.
-/

namespace SelfRelay.Engine

/-- The code that `sendTerminalFrame` sends. -/
def safeCode (code : JsString) : JsString := if isSafeCode code then code else js "transfer_failed"

/-- The refusal of the calls that wait for capacity. -/
def refuseWaits (e : Engine) (error : ProtocolError) : Engine :=
  { e with sends := settleWaits e.sends fun call _ => .refused call error }

/-- The possible outcomes of an event. -/
inductive Moves (runtime : Runtime) (e : Engine) : EngineEvent → Engine → Prop
  | start : Moves runtime e .start (e.start.1.addThread (.starting e.start.2))
  /-- `accept` awaits the frame it sends. -/
  | acceptSends {e₁ send} (haccept : e.accept = (e₁, .ok (some send))) :
      Moves runtime e .accept (e₁.addThread (.accepting send))
  /-- `accept` has nothing to await, or throws. -/
  | acceptReturns {e₁ outcome} (haccept : e.accept = (e₁, outcome))
      (hnone : ∀ send, outcome ≠ .ok (some send)) : Moves runtime e .accept e₁
  | rejectLate {code} (hover : e.isTerminal = true) : Moves runtime e (.reject code) e
  | reject {code} (hover : ¬ e.isTerminal = true) :
      Moves runtime e (.reject code) (e.start.1.addThread
        (.terminating .cancel (safeCode code) .cancelled (.starting e.start.2)))
  /-- A check of `sendFile` throws. -/
  | sendFileRefused {file fileName error} (hcheck : e.checkSendFile file = .error error) :
      Moves runtime e (.sendFile file fileName)
        (e.addThread (.sendFile file fileName (.returned (.error (.protocol error)))))
  | sendFile {file fileName} (hcheck : e.checkSendFile file = .ok ()) :
      Moves runtime e (.sendFile file fileName)
        (e.start.1.addThread (.sendFile file fileName (.starting e.start.2)))
  | closeAgain (hclosed : e.stateValue = .closed) : Moves runtime e .close e
  | close {readyState} (hclosed : e.stateValue ≠ .closed)
      (hready : readyState = if e.channel.readyState = .closed then .closed else .closing) :
      Moves runtime e .close ((((e.cleanupReceiver.releaseInbound).rejectPending
        (protocolError "The transfer was closed." "closed")).setState .closed).setReadyState
          readyState)
  /-- A message for an engine that is over is dropped. -/
  | messageLate {data} (hover : e.isTerminal = true) : Moves runtime e (.message data) e
  | message {data} (hover : ¬ e.isTerminal = true) :
      Moves runtime e (.message data) { e with queue := e.queue ++ [data] }
  | opened (hready : e.channel.readyState = .connecting) :
      Moves runtime e .opened (e.setReadyState .opened).onOpen
  | closing (hready : e.channel.readyState ≠ .closed) :
      Moves runtime e .closing (e.setReadyState .closing)
  | closed (hready : e.channel.readyState ≠ .closed) :
      Moves runtime e .closed (((e.setReadyState .closed).fail
        (.protocol (protocolError "The data channel closed." "channel_closed")) true).refuseWaits
          channelClosed)
  | errored {error} (herror : error = protocolError "The data channel failed." "channel_failed") :
      Moves runtime e .errored ((e.fail (.protocol error) true).refuseWaits error)
  | drained {bufferedAmount} (hle : bufferedAmount ≤ e.channel.bufferedAmount) :
      Moves runtime e (.drained bufferedAmount)
        { e with channel := { e.channel with bufferedAmount } }
  | capacityFreed (hle : e.channel.bufferedAmount ≤ e.options.lowWaterMark) :
      Moves runtime e .bufferedAmountLow { e with sends := settleWaits e.sends .passed }
  | capacityKept (hlt : ¬ e.channel.bufferedAmount ≤ e.options.lowWaterMark) :
      Moves runtime e .bufferedAmountLow e
  /-- A call of `sendFrame` goes on. -/
  | encrypted {send result status stream next} (hsend : e.sends[send]? = some status)
      (hnext : e.encryptedSend result status = some (stream, next)) :
      Moves runtime e (.encrypted send result) { e.setSend send next with stream }
  | capacity {send status next} (hsend : e.sends[send]? = some status)
      (hnext : e.waitForDataChannelCapacity status = some next) :
      Moves runtime e (.capacity send) (e.setSend send next)
  | transmit {send status channel next} (hsend : e.sends[send]? = some status)
      (hnext : transmitSend e.channel status = some (channel, next)) :
      Moves runtime e (.transmit send) { e.setSend send next with channel }
  /-- A call of a public method goes on. -/
  | resume {thread t e₁ next} (hthread : e.threads[thread]? = some t)
      (hnext : e.resumeThread runtime.unicode t = some (e₁, next)) :
      Moves runtime e (.resume thread) (e₁.setThread thread next)
  | signed {thread signature file fileName pc e₁ next}
      (hthread : e.threads[thread]? = some (.sendFile file fileName pc))
      (hnext : e.signedSendFile signature pc = some (e₁, next)) :
      Moves runtime e (.signed thread signature)
        (e₁.setThread thread (.sendFile file fileName next))
  | sliced {thread slice file fileName pc e₁ next}
      (hthread : e.threads[thread]? = some (.sendFile file fileName pc))
      (hnext : e.slicedSendFile file slice pc = some (e₁, next)) :
      Moves runtime e (.sliced thread slice) (e₁.setThread thread (.sendFile file fileName next))
  /-- The queue is rejected: the callback does not run. -/
  | dequeueRefused {data queue error} (hidle : e.receiving = none)
      (hqueue : e.queue = data :: queue)
      (herror : e.queueError = some error) :
      Moves runtime e .dequeue (fail { e with queue } error true)
  | dequeue {data queue} (hidle : e.receiving = none) (hqueue : e.queue = data :: queue)
      (herror : e.queueError = none) :
      Moves runtime e .dequeue { e with queue, receiving := some (.reading data) }
  /-- The message being processed goes on. -/
  | bytesRead {failure data} (hpc : e.receiving = some (.reading data)) :
      Moves runtime e (.bytesRead failure)
        { e with receiving := some (e.readMessage data failure) }
  | decrypted {result call} (hpc : e.receiving = some (.decrypting call)) :
      Moves runtime e (.decrypted result) (goOn (e.openFrame call result))
  | handle {header plaintext} (hpc : e.receiving = some (.received header plaintext)) :
      Moves runtime e .handle (goOn (e.handleFrame runtime header plaintext))
  | offerKeyRefused {offer error} (hpc : e.receiving = some (.importingOffer offer))
      (himport : e.importSenderKey runtime = some (.error error)) :
      Moves runtime e .imported (goOn (e.throwing error))
  | completeKeyRefused {core signature error}
      (hpc : e.receiving = some (.importingComplete core signature))
      (himport : e.importSenderKey runtime = some (.error error)) :
      Moves runtime e .imported (goOn (e.throwing error))
  | offerKey {offer key} (hpc : e.receiving = some (.importingOffer offer))
      (himport : e.importSenderKey runtime = some (.ok key)) :
      Moves runtime e .imported (goOn (e.verifyOffer offer key))
  | completeKey {core signature key} (hpc : e.receiving = some (.importingComplete core signature))
      (himport : e.importSenderKey runtime = some (.ok key)) :
      Moves runtime e .imported (goOn (e.verifyComplete core signature key))
  | verifiedOffer {offer key message signature}
      (hpc : e.receiving = some (.verifyingOffer offer key message signature)) :
      Moves runtime e .verified (goOn (e.verifiedOffer runtime offer key message signature))
  | verifiedComplete {core key message signature}
      (hpc : e.receiving = some (.verifyingComplete core key message signature)) :
      Moves runtime e .verified (goOn (e.verifiedComplete runtime core key message signature))
  | resumeHandler {pc next} (hpc : e.receiving = some pc) (hnext : e.resumeHandler pc = some next) :
      Moves runtime e .resumeHandler (goOn next)
  | caught {error} (hpc : e.receiving = some (.threw error)) :
      Moves runtime e .caught
        { e.fail error true with receiving := none, queueError := some error }

theorem step_moves {runtime : Runtime} {e e' : Engine} {event : EngineEvent}
    (h : e.step runtime event = some e') : Moves runtime e event e' := by
  cases event with
  | start =>
    cases h
    exact .start
  | accept =>
    simp only [step] at h
    split at h
    · rename_i haccept
      cases h
      exact .acceptSends haccept
    · rename_i hnone haccept
      cases h
      exact .acceptReturns haccept hnone
  | reject code =>
    cases h
    unfold sendTerminalFrame
    split
    · exact .rejectLate ‹_›
    · exact .reject ‹_›
  | sendFile file fileName =>
    cases h
    unfold Engine.sendFile
    split
    · exact .sendFileRefused ‹_›
    · exact .sendFile ‹_›
  | close =>
    cases h
    unfold Engine.close
    split
    · exact .closeAgain ‹_›
    · exact .close ‹_› rfl
  | message data =>
    cases h
    split
    · exact .messageLate ‹_›
    · exact .message ‹_›
  | opened =>
    simp only [step] at h
    split_ifs at h with hready
    cases h
    exact .opened hready
  | closing =>
    simp only [step] at h
    split_ifs at h with hready
    cases h
    exact .closing hready
  | closed =>
    simp only [step] at h
    split_ifs at h with hready
    cases h
    exact .closed hready
  | errored =>
    cases h
    exact .errored rfl
  | drained n =>
    simp only [step] at h
    split_ifs at h with hle
    cases h
    exact .drained hle
  | bufferedAmountLow =>
    simp only [step] at h
    split_ifs at h with hle <;> cases h
    · exact .capacityFreed hle
    · exact .capacityKept hle
  | encrypted send result =>
    simp only [step, Option.bind_eq_bind, Option.bind_eq_some_iff] at h
    obtain ⟨status, hsend, ⟨stream, next⟩, hnext, h⟩ := h
    cases h
    exact .encrypted hsend hnext
  | capacity send =>
    simp only [step, Option.bind_eq_bind, Option.bind_eq_some_iff] at h
    obtain ⟨status, hsend, next, hnext, h⟩ := h
    cases h
    exact .capacity hsend hnext
  | transmit send =>
    simp only [step, Option.bind_eq_bind, Option.bind_eq_some_iff] at h
    obtain ⟨status, hsend, ⟨channel, next⟩, hnext, h⟩ := h
    cases h
    exact .transmit hsend hnext
  | resume thread =>
    simp only [step, Option.bind_eq_bind, Option.bind_eq_some_iff] at h
    obtain ⟨t, hthread, ⟨e₁, next⟩, hnext, h⟩ := h
    cases h
    exact .resume hthread hnext
  | signed thread signature =>
    simp only [step, Option.bind_eq_bind, Option.bind_eq_some_iff] at h
    obtain ⟨t, hthread, h⟩ := h
    split at h
    · obtain ⟨⟨e₁, pc⟩, hsigned, h⟩ := Option.bind_eq_some_iff.1 h
      cases h
      exact .signed hthread hsigned
    · cases h
  | sliced thread slice =>
    simp only [step, Option.bind_eq_bind, Option.bind_eq_some_iff] at h
    obtain ⟨t, hthread, h⟩ := h
    split at h
    · obtain ⟨⟨e₁, pc⟩, hsliced, h⟩ := Option.bind_eq_some_iff.1 h
      cases h
      exact .sliced hthread hsliced
    · cases h
  | dequeue =>
    simp only [step, dequeueMessage] at h
    split at h
    · rename_i hidle hqueue
      split at h <;> rename_i herror <;> cases h
      · exact .dequeueRefused hidle hqueue herror
      · exact .dequeue hidle hqueue herror
    · cases h
  | bytesRead failure =>
    simp only [step] at h
    split at h <;> cases h
    exact .bytesRead ‹_›
  | decrypted result =>
    simp only [step] at h
    split at h <;> cases h
    exact .decrypted ‹_›
  | handle =>
    simp only [step] at h
    split at h <;> cases h
    exact .handle ‹_›
  | imported =>
    simp only [step] at h
    split at h <;> rename_i hpc himport <;> cases h
    · exact .offerKeyRefused hpc himport
    · exact .completeKeyRefused hpc himport
    · exact .offerKey hpc himport
    · exact .completeKey hpc himport
  | verified =>
    simp only [step] at h
    split at h <;> cases h
    · exact .verifiedOffer ‹_›
    · exact .verifiedComplete ‹_›
  | resumeHandler =>
    simp only [step, Option.bind_eq_bind, Option.bind_eq_some_iff] at h
    obtain ⟨pc, hpc, next, hnext, h⟩ := h
    cases h
    exact .resumeHandler hpc hnext
  | caught =>
    simp only [step] at h
    split at h <;> cases h
    exact .caught ‹_›

end SelfRelay.Engine
