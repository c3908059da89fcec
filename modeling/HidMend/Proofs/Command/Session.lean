import HidMend.Command.Run
import Mathlib.Tactic.Common

/-!
# How sessions end

A session is followed in a world that answers for its files, and of which nothing else is assumed.
`Ends` says with which result and in which world a session ends, whatever the journal held before;
it composes along the steps of a session.  An execution shows the result of its session: an exit
code that is zero for an answer alone, and the text or the JSON of the answer.
-/

namespace HidMend

variable {World α β : Type} {world middle after : World}

namespace Session

/-- The session ends with `result` and leaves the world as `after`. -/
def Ends (session : Session (StateM World) α) (world : World) (result : Except Failure α)
    (after : World) : Prop :=
  ∀ journal, ∃ notes, (session.run.run journal).run world = ((result, notes), after)

theorem ends_pure (value : α) (world : World) :
    Ends (pure value : Session (StateM World) α) world (.ok value) world :=
  fun journal => ⟨journal, rfl⟩

theorem ends_throw (failure : Failure) (world : World) :
    Ends (throw failure : Session (StateM World) α) world (.error failure) world :=
  fun journal => ⟨journal, rfl⟩

theorem ends_addNotes (notes : List Note) (world : World) :
    Ends (addNotes notes : Session (StateM World) Unit) world (.ok ()) world :=
  fun journal => ⟨journal ++ notes, rfl⟩

theorem ends_require (result : Except Failure α) (world : World) :
    Ends (require result : Session (StateM World) α) world result world := by
  cases result with
  | ok value => exact ends_pure value world
  | error failure => exact ends_throw failure world

/-- A file fault ends the session once the file is required, with its use and its path. -/
theorem ends_requireFile (use : FileUse) (path : String) (result : Except FileFault α)
    (world : World) :
    Ends (requireFile use path result : Session (StateM World) α) world
      (result.mapError (.file use path)) world :=
  ends_require _ world

/-- What the world does outside of the session. -/
theorem ends_monadLift {action : StateM World α} {value : α}
    (haction : action.run world = (value, after)) :
    Ends (liftM action : Session (StateM World) α) world (.ok value) after := by
  intro journal
  have hlift : ((liftM action : Session (StateM World) α).run.run journal).run world =
      ((.ok (action.run world).1, journal), (action.run world).2) := rfl
  exact ⟨journal, by rw [hlift, haction]⟩

/-- A session goes on where a step has ended well. -/
theorem Ends.bind {session : Session (StateM World) α} {next : α → Session (StateM World) β}
    {value : α} {result : Except Failure β} (hfirst : Ends session world (.ok value) middle)
    (hnext : Ends (next value) middle result after) :
    Ends (session >>= next) world result after := by
  intro journal
  obtain ⟨notes, hrun⟩ := hfirst journal
  obtain ⟨more, hmore⟩ := hnext notes
  refine ⟨more, ?_⟩
  rw [ExceptT.run_bind, StateT.run_bind, StateT.run_bind, hrun]
  exact hmore

/-- A failure ends a session, whatever was to come. -/
theorem Ends.bind_error {session : Session (StateM World) α}
    {next : α → Session (StateM World) β} {failure : Failure}
    (hfirst : Ends session world (.error failure) after) :
    Ends (session >>= next) world (.error failure) after := by
  intro journal
  obtain ⟨notes, hrun⟩ := hfirst journal
  refine ⟨notes, ?_⟩
  rw [ExceptT.run_bind, StateT.run_bind, StateT.run_bind, hrun]
  rfl

/-- Steps that leave the world alone, one for each element of a list. -/
theorem ends_mapM {step : α → Session (StateM World) β} {value : α → β} {inputs : List α}
    (hstep : ∀ input ∈ inputs, Ends (step input) world (.ok (value input)) world) :
    Ends (inputs.mapM step) world (.ok (inputs.map value)) world := by
  induction inputs with
  | nil => exact ends_pure [] world
  | cons input rest ih =>
      rw [List.mapM_cons]
      apply (hstep input List.mem_cons_self).bind
      apply (ih fun other hother => hstep other (List.mem_cons_of_mem _ hother)).bind
      exact ends_pure _ world

/-! ## Files -/

variable [Files (StateM World)]

theorem ends_listDirectory {path : String} {listed : Except FileFault (List Bytes)}
    (hlist : (Files.listDirectory path : StateM World _).run world = (listed, after)) :
    Ends (Files.listDirectory path : Session (StateM World) _) world (.ok listed) after :=
  ends_monadLift hlist

/-- A file fault is a value of the session and does not end it. -/
theorem ends_readFile {path : String} {content : Except FileFault Bytes}
    (hread : (Files.readFile path : StateM World _).run world = (content, after)) :
    Ends (Files.readFile path : Session (StateM World) _) world (.ok content) after :=
  ends_monadLift hread

theorem ends_writeFile {path : String} {bytes : Bytes} {done : Except FileFault Unit}
    (hwrite : (Files.writeFile path bytes : StateM World _).run world = (done, after)) :
    Ends (Files.writeFile path bytes : Session (StateM World) _) world (.ok done) after :=
  ends_monadLift hwrite

theorem ends_readText {path : String} {content : Except FileFault Bytes}
    (hread : (Files.readFile path : StateM World _).run world = (content, after)) :
    Ends (readText path : Session (StateM World) _) world (.ok (content.bind textOfBytes))
      after := by
  apply (ends_readFile hread).bind
  cases content with
  | ok bytes => exact ends_pure _ after
  | error fault => exact ends_pure _ after

theorem run_readText {path : String} {content : Except FileFault Bytes}
    (hread : (Files.readFile path : StateM World _).run world = (content, after)) :
    (readText path : StateM World _).run world = (content.bind textOfBytes, after) := by
  rw [readText, StateT.run_bind, hread]
  cases content with
  | ok bytes => rfl
  | error fault => rfl

/-- Settings are the same in a session as outside. -/
theorem ends_load {path : Option String} {result : Except SettingsFault Settings}
    (hload : (Settings.load path : StateM World _).run world = (result, after)) :
    Ends (Settings.load path : Session (StateM World) _) world (.ok result) after := by
  cases path with
  | none =>
      cases hload
      exact ends_pure _ world
  | some path =>
      cases hread : (Files.readFile path : StateM World _).run world with
      | mk content left =>
          rw [Settings.load, StateT.run_bind, run_readText hread] at hload
          apply (ends_readText hread).bind
          cases htext : content.bind textOfBytes with
          | ok text =>
              rw [htext] at hload
              cases hload
              exact ends_pure _ _
          | error cause =>
              rw [htext] at hload
              cases hload
              exact ends_pure _ _

end Session

/-- Writing the bytes to the path leads from one world to the other, where they can be read. -/
def Files.Written [Files (StateM World)] (path : String) (bytes : Bytes) (world after : World) :
    Prop :=
  (Files.writeFile path bytes : StateM World _).run world = (.ok (), after) ∧
    (Files.readFile path : StateM World _).run after = (.ok bytes, after)

/-- Anything can be written to the path. -/
def Files.Writable [Files (StateM World)] (path : String) (world : World) : Prop :=
  ∀ bytes, ∃ after, Files.Written path bytes world after

namespace Execution

variable [Files (StateM World)] {environment : Environment} {arguments : List String}
  {invocation : Invocation} {settings : Settings} {roster : Roster}

/-- The settings lead to the roster, and reading them leaves the world as it is. -/
structure Loads (world : World) (path : Option String) (settings : Settings) (roster : Roster) :
    Prop where
  load : (Settings.load path : StateM World _).run world = (.ok settings, world)
  roster : Roster.ofSettings settings = .ok roster

/-- A session starts with the roster of its settings. -/
theorem ends_loadRoster {path : Option String} (hloads : Loads world path settings roster) :
    Session.Ends (loadRoster path : Session (StateM World) Roster) world (.ok roster) world := by
  apply (Session.ends_load hloads.load).bind
  apply (Session.ends_require (.ok settings) world).bind
  rw [hloads.roster]
  apply (Session.ends_require (.ok roster) world).bind
  apply (Session.ends_addNotes _ world).bind
  exact Session.ends_pure roster world

/-- A run shows how its task ends. -/
theorem run_of_ends
    (hrequest : Request.ofArguments arguments environment.settingsPath = .ok (.perform invocation))
    (hloads : Loads world invocation.settingsPath settings roster) {result : Except Failure Answer}
    (hends : Session.Ends (perform roster invocation.task) world result after) :
    ∃ notes, (run environment arguments : StateM World Execution).run world =
      (ofResult invocation.json result notes, after) := by
  have hsession : Session.Ends
      (do perform (← loadRoster invocation.settingsPath) invocation.task) world result after :=
    (ends_loadRoster hloads).bind hends
  obtain ⟨notes, hrun⟩ := hsession []
  rw [run, hrequest]
  simp only [ofInvocation]
  rw [StateT.run_bind, hrun]
  exact ⟨_, rfl⟩

/-- The exit code that stands for a result. -/
def exitCodeOf : Except Failure Answer → ℕ
  | .ok _ => 0
  | .error failure => failure.exitCode

theorem exitCode_ofResult (json : Bool) (result : Except Failure Answer) (notes : List Note) :
    (ofResult json result notes).exitCode = exitCodeOf result := by
  cases result with
  | ok answer => rfl
  | error failure => cases json <;> rfl

/-- What a run shows and leaves is what its session ends with. -/
theorem eq_ofResult_of_ends
    (hrequest : Request.ofArguments arguments environment.settingsPath = .ok (.perform invocation))
    (hloads : Loads world invocation.settingsPath settings roster) {execution : Execution}
    (hrun : (run environment arguments : StateM World Execution).run world = (execution, after))
    {result : Except Failure Answer} {left : World}
    (hends : Session.Ends (perform roster invocation.task) world result left) :
    (∃ notes, execution = ofResult invocation.json result notes) ∧ after = left := by
  obtain ⟨notes, hresult⟩ := run_of_ends hrequest hloads hends
  rw [hresult] at hrun
  cases hrun
  exact ⟨⟨notes, rfl⟩, rfl⟩

end Execution

end HidMend
