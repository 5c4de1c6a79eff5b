import EnvInline.Pass

/-!
# Sessions

A session is a pass in a world that changes: files are written, touched and removed, variables are
set, source files are transformed, and from time to time the pass is built anew or refreshed. Only
these two let the pass see what has changed.
-/

namespace EnvInline

/-- A change of a disk from outside. -/
inductive Disk.Change where
  | write (path : Path) (content : List UInt8) (time : Int)
  | touch (path : Path) (time : Int)
  | makeDirectory (path : Path) (time : Int)
  | remove (path : Path)
deriving DecidableEq, Repr

/-- The disk after a change. Directories that a new file or directory needs are made at the time
`now`; they stay if the change fails. -/
def Disk.change (d : Disk) (cwd : Path) (now : Int) :
    Disk.Change → Except (DiskError × Disk) Disk
  | .write path content time =>
    match d.makeDirectories cwd (path.parent?.getD ⟨""⟩) now with
    | .error left => .error left
    | .ok d => (d.write cwd path content time).mapError (·, d)
  | .touch path time => (d.touch cwd path time).mapError (·, d)
  | .makeDirectory path time =>
    match d.makeDirectories cwd path now with
    | .error left => .error left
    | .ok d => (d.touch cwd path time).mapError (·, d)
  | .remove path => (d.remove cwd path).mapError (·, d)

/-- A disk, an environment, and the pass, once one has been built. -/
structure Session where
  disk : Disk
  environment : Environment
  pass? : Option Pass
deriving DecidableEq, Repr

namespace Session

/-- What is done in a session. -/
inductive Action where
  | change (change : Disk.Change)
  | setVariable (name : String) (value : Option String)
  | build (options : Options)
  | refresh
  | checkStale
  | transform (file : SourceFile)
deriving DecidableEq, Repr

/-- What comes of an action. -/
inductive Answer where
  | finished
  | failed (error : DiskError)
  | noPass
  | refreshed (isNew : Bool)
  | stale (isStale : Bool)
  | transformed (output : Output)
  | refused (fault : SourceFault)
deriving DecidableEq, Repr

/-- A session after an action, with the answer and what is told about it. -/
structure Reaction where
  session : Session
  answer : Answer
  events : List Event
deriving DecidableEq, Repr

/-- Does one action in a directory at some time. -/
def act (s : Session) (cwd : Path) (now : Int) : Action → Reaction
  | .change change =>
    match s.disk.change cwd now change with
    | .error (e, d) => ⟨{ s with disk := d }, .failed e, []⟩
    | .ok d => ⟨{ s with disk := d }, .finished, []⟩
  | .setVariable name value =>
    ⟨{ s with environment := s.environment.set name value }, .finished, []⟩
  | .build options =>
    let ((pass, events), disk) := (Pass.build options s.environment cwd).run cwd now s.disk
    ⟨{ s with disk, pass? := some pass }, .finished, events⟩
  | .refresh =>
    match s.pass? with
    | none => ⟨s, .noPass, []⟩
    | some pass =>
      let ((isNew, pass, events), disk) := (pass.refresh s.environment cwd).run cwd now s.disk
      ⟨{ s with disk, pass? := some pass }, .refreshed isNew, events⟩
  | .checkStale =>
    match s.pass? with
    | none => ⟨s, .noPass, []⟩
    | some pass =>
      let (isStale, disk) := (pass.isStale cwd).run cwd now s.disk
      ⟨{ s with disk }, .stale isStale, []⟩
  | .transform file =>
    match s.pass? with
    | none => ⟨s, .noPass, []⟩
    | some pass =>
      match pass.transform file with
      | .error fault => ⟨s, .refused fault, []⟩
      | .ok output => ⟨s, .transformed output, []⟩

/-- The session after some actions. -/
def actAll (s : Session) (cwd : Path) (now : Int) (actions : List Action) : Session :=
  actions.foldl (fun s a => (s.act cwd now a).session) s

end Session

end EnvInline
