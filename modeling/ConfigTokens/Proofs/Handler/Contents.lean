import ConfigTokens.Handler.Awaited
import ConfigTokens.Proofs.Callback.Making
import ConfigTokens.Proofs.Callback.Undisturbed
import ConfigTokens.Proofs.FileTree.Descent
import ConfigTokens.Proofs.Handler.Encoding
/-!
# Files that are read as bytes

A handler without an encoding answers with the bytes of the file at the path that its token is anchored to,
or throws what the operating system reports about that path. One kind of path is refused before the operating
system is asked: a path with a null character in it. Whatever comes of a call, a callback gets just that.
-/

namespace ConfigTokens

namespace Module

/-- The bytes of a file. A program stands for a text that is not kept, and reads as nothing. -/
def Content.data : Content → List UInt8
  | .bytes data => data
  | .program _ => []

end Module

open ConfigTokens.Module

namespace Thrown

/-- The classes for what the operating system reports. -/
def systemClasses : List String :=
  ["OSError", "FileNotFoundError", "IsADirectoryError", "NotADirectoryError"]

theorem className_of_unreadable
    (fault : PathFault)
    (path : String) :
    (Thrown.unreadable fault path).className ∈ systemClasses := by
  show pathClassName fault ∈ systemClasses
  cases fault <;> decide

end Thrown

namespace FileTree

variable {Content : Type}

/-- What can be read is the content of the file that the path denotes. -/
theorem read_eq_ok_iff
    (tree : FileTree Content)
    (cwd : List String)
    (path : String)
    (content : Content) :
    tree.read cwd path = .ok content ↔
      ∃ place, tree.find true cwd path = .ok (place, .file content) := by
  unfold read
  constructor
  · intro got
    split at got
    case h_1 place inside found =>
        cases got
        exact ⟨place, found⟩
    case h_2 => cases got
    case h_3 => cases got
  · rintro ⟨place, found⟩
    rw [found]

end FileTree

namespace Hosted

/-- How a computation ends in a host. -/
def outcome
    {α : Type}
    (action : Hosted α)
    (host : Host) : Except Thrown α :=
  match action host with
  | .ok value _ => .ok value
  | .error thrown _ => .error thrown

end Hosted

namespace Handler

/-! ## The awaited answer -/

/-- A handler for files without an encoding. -/
def forBytes
    (base policy : String) : Handler :=
  .file base ⟨none, policy⟩

/-- The path of the file that a token stands for below a base directory. -/
def anchored
    (host : Host)
    (base token : String) : String :=
  Path.anchorText host.cwdText base token

/-- The host after a file could not be read for a token. -/
def noted
    (host : Host)
    (path token : String)
    (fault : PathFault) : Host :=
  { host with world := host.world.note (.readFailed path token (fault.message path)) }

/-- Awaiting a handler for bytes comes to reading the bytes. -/
theorem callAwaited_of_readBytes
    (host : Host)
    (base policy token : String) :
    (forBytes base policy).callAwaited token host =
      match readBytes (anchored host base token) token host with
      | .ok data after => .ok (.bytes data) after
      | .error thrown after => .error thrown after := by
  have calls :
      (forBytes base policy).call token host =
        (Answer.plain <$> readFile ⟨none, policy⟩ (anchored host base token) token) host := by
    unfold forBytes anchored call
    rfl
  rw [Hosted.map_apply, readFile] at calls
  rw [callAwaited]
  cases read : readBytes (anchored host base token) token host with
  | ok data after =>
      rw [Hosted.bind_of_ok read] at calls
      rw [Hosted.bind_of_ok calls]
      rfl
  | error thrown after =>
      rw [Hosted.bind_of_error read] at calls
      rw [Hosted.bind_of_error calls]

/-- All that can come of awaiting a handler for bytes. -/
theorem callAwaited_forBytes
    (host : Host)
    (base policy token : String) :
    (forBytes base policy).callAwaited token host =
      if '\x00' ∈ (anchored host base token).toList then .error .embeddedNull host
      else
        match host.tree.read host.cwd (anchored host base token) with
        | .ok content => .ok (.bytes content.data) host
        | .error fault =>
          .error (.unreadable fault (anchored host base token))
            (noted host (anchored host base token) token fault) := by
  rw [callAwaited_of_readBytes, readBytes_apply]
  by_cases null : '\x00' ∈ (anchored host base token).toList
  · rw [if_pos (List.contains_iff_mem.mpr null), if_pos null]
  · rw [if_neg (mt List.contains_iff_mem.mp null), if_neg null]
    cases host.tree.read host.cwd (anchored host base token) with
    | error fault => rfl
    | ok content => cases content <;> rfl

/-- The answer of a handler to a token in a host, awaited. -/
def awaited
    (handler : Handler)
    (token : String)
    (host : Host) : Except Thrown Value :=
  Hosted.outcome (handler.callAwaited token) host

/-- An outcome is the bytes of the file at a path, or a failure that the operating system reports for it. -/
def BytesOrFault
    (host : Host)
    (path : String) : Except Thrown Value → Prop
  | .ok value =>
    ∃ place content,
      host.tree.find true host.cwd path = .ok (place, .file content) ∧ value = .bytes content.data
  | .error thrown =>
    ∃ fault,
      host.tree.read host.cwd path = .error fault ∧
        thrown = .unreadable fault path ∧ thrown.className ∈ Thrown.systemClasses

theorem awaited_of_null
    {host : Host}
    {base token : String}
    (policy : String)
    (null : '\x00' ∈ (anchored host base token).toList) :
    (forBytes base policy).awaited token host = .error .embeddedNull := by
  unfold awaited Hosted.outcome
  rw [callAwaited_forBytes, if_pos null]

/-- A path without a null character is answered as the operating system has it. -/
theorem awaited_bytesOrFault
    {host : Host}
    {base token : String}
    (policy : String)
    (plain : '\x00' ∉ (anchored host base token).toList) :
    BytesOrFault host (anchored host base token)
      ((forBytes base policy).awaited token host) := by
  unfold awaited Hosted.outcome
  rw [callAwaited_forBytes, if_neg plain]
  cases read : host.tree.read host.cwd (anchored host base token) with
  | ok content =>
      rcases (host.tree.read_eq_ok_iff host.cwd _ content).mp read with ⟨place, found⟩
      exact ⟨place, content, found, rfl⟩
  | error fault => exact ⟨fault, read, rfl, Thrown.className_of_unreadable fault _⟩

/-- The two failures of a handler for bytes: of the path's text, and of the operating system. -/
theorem thrown_of_awaited
    {host : Host}
    {base policy token : String}
    {thrown : Thrown}
    (failed : (forBytes base policy).awaited token host = .error thrown) :
    thrown = .embeddedNull ∨
      ∃ fault, thrown = .unreadable fault (anchored host base token) := by
  by_cases null : '\x00' ∈ (anchored host base token).toList
  · rw [awaited_of_null policy null] at failed
    cases failed
    exact .inl rfl
  · have fits :
        BytesOrFault host (anchored host base token) ((forBytes base policy).awaited token host) :=
      awaited_bytesOrFault policy null
    rw [failed] at fits
    rcases fits with ⟨fault, -, unreadable, -⟩
    exact .inr ⟨fault, unreadable⟩

/-! ## What a callback gets -/

/-- An outcome as a callback gets it. -/
def told : Except Thrown Value → Option Thrown × Value
  | .ok value => (none, value)
  | .error thrown => (some thrown, .null)

/-- The host after a call that is awaited. -/
def hostAfter
    (handler : Handler)
    (token : String)
    (host : Host) : Host :=
  match handler.callAwaited token host with
  | .ok _ after | .error _ after => after

/-- A callback gets an ordinary outcome as it is. -/
theorem callBack_apply
    {handler : Handler}
    {token : String}
    {host : Host}
    (ordinary : ∀ thrown, handler.awaited token host = .error thrown → thrown.isOrdinary = true) :
    handler.callBack token host =
      .ok (told (handler.awaited token host)) (handler.hostAfter token host) := by
  unfold awaited Hosted.outcome at ordinary ⊢
  unfold hostAfter
  show EStateM.tryCatch (EStateM.bind (handler.callAwaited token) _) _ host = _
  unfold EStateM.tryCatch EStateM.bind
  cases called : handler.callAwaited token host with
  | ok value after => rfl
  | error thrown after =>
      rw [called] at ordinary
      dsimp only
      rw [if_pos (ordinary thrown rfl)]
      rfl

/-- The handler for a loop: calling it does nothing yet, and what it awaits may make it wait. -/
def coroutine
    (handler : Handler)
    (host : Host)
    (waits : Nat)
    (token : String) : Callback.Coroutine Value :=
  .suspending (handler.awaited token host) waits

/-- A call of a handler for bytes, adapted to a callback. -/
def byteCall
    (host : Host)
    (base policy token : String)
    (waits : Nat)
    (callback : Option Thrown → Value → Option Thrown) : Callback.Call :=
  ⟨(forBytes base policy).coroutine host waits, token, callback⟩

/-- The failures of a handler for bytes leave a coroutine as they are, and are told to callbacks. -/
theorem ordinary_of_awaited
    {host : Host}
    {base policy token : String}
    {thrown : Thrown}
    (failed : (forBytes base policy).awaited token host = .error thrown) :
    thrown.isOrdinary = true ∧ thrown.className ≠ Callback.iterationEnd := by
  rcases thrown_of_awaited failed with rfl | ⟨fault, rfl⟩
  · exact ⟨rfl, by decide⟩
  · refine ⟨rfl, ?_⟩
    intro same
    have listed := Thrown.className_of_unreadable fault (anchored host base token)
    rw [same] at listed
    exact absurd listed (by decide)

/-- The one delivery that a call is owed. -/
theorem upshot_awaited
    (host : Host)
    (base policy token : String)
    (call : Callback.Call)
    (task : Nat) :
    (call.upshot task (((forBytes base policy).awaited token host).mapError Callback.leaving)).2 =
      [⟨task, (told ((forBytes base policy).awaited token host)).1,
        (told ((forBytes base policy).awaited token host)).2⟩] := by
  cases outcome : (forBytes base policy).awaited token host with
  | ok value => rfl
  | error thrown =>
      rcases ordinary_of_awaited outcome with ⟨ordinary, other⟩
      rw [Except.mapError, Callback.leaving_of_ne other, Callback.Call.upshot, if_pos ordinary]
      rfl

/--
A handler without an encoding, for every host, base directory and token:

* Awaited, it gives the bytes of the file at the path that the token is anchored to, or throws what the operating
  system reports about that path, exactly if there is no null character in the path.
* A path with a null character is an error in a value and no failure of the operating system.
* A callback gets what it gives, or what it throws.
* In a loop, calling it makes a task and throws nothing. However long it then waits, and whatever else goes on, its
  callback has got its outcome, once, as soon as its task has run more often than that without being cancelled.
-/
theorem bytes_or_fault_iff
    (host : Host)
    (base policy token : String) :
    (BytesOrFault host (anchored host base token) ((forBytes base policy).awaited token host) ↔
        '\x00' ∉ (anchored host base token).toList) ∧
      ('\x00' ∈ (anchored host base token).toList →
        (forBytes base policy).awaited token host = .error .embeddedNull ∧
          Thrown.embeddedNull.className = "ValueError") ∧
      (forBytes base policy).callBack token host =
        .ok (told ((forBytes base policy).awaited token host)) ((forBytes base policy).hostAfter token host) ∧
      ∀ (waits : Nat) (callback : Option Thrown → Value → Option Thrown),
        (∀ loop : Callback.Loop,
          (byteCall host base policy token waits callback).make (.inside loop) =
            .ok (some loop.tasks.length)
              (.inside (loop.create (byteCall host base policy token waits callback)))) ∧
        ∀ (calls : List Callback.Call) (actions : List Callback.Action) (task : Nat),
          calls[task]? = some (byteCall host base policy token waits callback) →
          .cancel ∉ Callback.turns task ((Callback.Loop.start calls).performed actions) →
          waits < (Callback.turns task ((Callback.Loop.start calls).performed actions)).length →
            ((Callback.Loop.start calls).perform actions).deliveriesTo task =
              [⟨task, (told ((forBytes base policy).awaited token host)).1,
                (told ((forBytes base policy).awaited token host)).2⟩] := by
  refine ⟨⟨?_, awaited_bytesOrFault policy⟩, ?_, ?_, ?_⟩
  · intro fits null
    rw [awaited_of_null policy null] at fits
    rcases fits with ⟨fault, -, same, -⟩
    cases same
  · intro null
    exact ⟨awaited_of_null policy null, rfl⟩
  · exact callBack_apply fun thrown failed => (ordinary_of_awaited failed).1
  · intro waits callback
    refine ⟨fun loop => Callback.make_inside _ loop, ?_⟩
    intro calls actions task started undisturbed often
    rw [Callback.deliveriesTo_of_undisturbed started rfl undisturbed often]
    exact upshot_awaited host base policy token _ task

/-- A host with a file of two bytes. -/
def twoBytesHost : Host :=
  ⟨⟨[(["a.txt"], .file (.bytes [0x68, 0x69]))]⟩, [], [], "", .usual, .blank,
    some ⟨none, none, false, "INFO", "json"⟩, .empty⟩

theorem awaited_twoBytesHost :
    (forBytes "/" "strict").awaited "a.txt" twoBytesHost = .ok (.bytes [0x68, 0x69]) := by
  have place : anchored twoBytesHost "/" "a.txt" = "/a.txt" := by decide
  have read : twoBytesHost.tree.read twoBytesHost.cwd "/a.txt" = .ok (.bytes [0x68, 0x69]) := by
    have spells : FileTree.Spells "/a.txt" ["a.txt"] := ⟨rfl, rfl, by decide, by decide⟩
    have above (count : Nat) (fewer : count < 1) :
        twoBytesHost.tree.entry? (["a.txt"].take count) = some .directory := by
      rw [Nat.lt_one_iff.mp fewer]
      rfl
    exact (FileTree.read_eq_ok_iff _ _ _ _).mpr
      ⟨["a.txt"], FileTree.find_of_entry spells above rfl nofun⟩
  unfold awaited Hosted.outcome
  rw [callAwaited_forBytes, place, if_neg (by decide), read]
  rfl

/-- Calls that wait twice, for the file and for a path with a null character. -/
def twoCalls : List Callback.Call :=
  [byteCall twoBytesHost "/" "strict" "a.txt" 2 fun _ _ => none,
    byteCall twoBytesHost "/" "strict" "a\x00.txt" 2 fun _ _ => none]

/-- The bytes are told after three turns of their task, with a turn of the other one among them. -/
theorem bytes_or_fault_twoBytesHost :
    '\x00' ∈ (anchored twoBytesHost "/" "a\x00.txt").toList ∧
      (forBytes "/" "strict").awaited "a\x00.txt" twoBytesHost = .error .embeddedNull ∧
      ((Callback.Loop.start twoCalls).perform [.run 0, .run 1, .run 0, .run 0]).deliveriesTo 0 =
        [⟨0, none, .bytes [0x68, 0x69]⟩] := by
  have null : '\x00' ∈ (anchored twoBytesHost "/" "a\x00.txt").toList := by decide
  rcases bytes_or_fault_iff twoBytesHost "/" "strict" "a\x00.txt" with ⟨-, refused, -, -⟩
  rcases bytes_or_fault_iff twoBytesHost "/" "strict" "a.txt" with ⟨-, -, -, delivers⟩
  have turns :
      Callback.turns 0
          ((Callback.Loop.start twoCalls).performed [.run 0, .run 1, .run 0, .run 0]) =
        [.run, .run, .run] :=
    rfl
  refine ⟨null, (refused null).1, ?_⟩
  have delivered := (delivers 2 fun _ _ => none).2 twoCalls [.run 0, .run 1, .run 0, .run 0] 0 rfl
  rw [turns, awaited_twoBytesHost] at delivered
  exact delivered (by decide) (by decide)

/-- A null character in a token makes an error that is no failure of the operating system. -/
theorem null_is_no_fault :
    ¬∀ (host : Host) (base policy token : String),
      BytesOrFault host (anchored host base token) ((forBytes base policy).awaited token host) := by
  intro claim
  have null : '\x00' ∈ (anchored twoBytesHost "/" "a\x00.txt").toList := by decide
  have fits := claim twoBytesHost "/" "strict" "a\x00.txt"
  rw [awaited_of_null "strict" null] at fits
  rcases fits with ⟨fault, -, same, -⟩
  cases same

end Handler

end ConfigTokens
