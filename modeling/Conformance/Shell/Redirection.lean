import Conformance.Shell.Tool.Arguments

/-!
# Redirection

How files, other streams and texts are attached to the streams of a command.
-/

namespace Conformance.Shell

/-- Why a stream cannot be attached. -/
inductive Refusal where
  /-- The command is not run. -/
  | told (message : String)
  /-- The shell cannot go on. -/
  | wrong (message : String)
  /-- Nobody ever opens the other end. -/
  | endless
  deriving DecidableEq, Repr

/-- The failure of a file that cannot be opened. -/
def cannotOpen (path : Bytes) (e : IoError) : Refusal :=
  let why : String :=
    match e with
    | .system .noEntry | .system .notDirectory => "No such file"
    | e => reason e
  .told ("cannot open " ++ text path ++ ": " ++ why)

/-- The failure of a file that cannot be created. -/
def cannotCreate (path : Bytes) (e : IoError) : Refusal :=
  let why : String :=
    match e with
    | .system .noEntry | .system .notDirectory => "Directory nonexistent"
    | e => reason e
  .told ("cannot create " ++ text path ++ ": " ++ why)

/-- Attaches a file to a stream that is read. -/
def attachInput (m : Machine) (stream : Nat) (path : Bytes) : Except Refusal Machine :=
  match Tool.streamOf? path with
  | some n =>
    match m.stream? n with
    | some s => .ok (m.setStream stream (some s))
    | none => .error (cannotOpen path (.system .noEntry))
  | none =>
    match m.files.resolve true path with
    | .error e => .error (cannotOpen path e)
    | .ok place =>
      match m.files.node? place with
      | none => .error (cannotOpen path (.system .noEntry))
      | some .directory => .ok (m.setStream stream (some (.place place)))
      | some .pipe => .error .endless
      | some .null => .ok (m.setStream stream (some .discard))
      | some _ =>
        match m.files.read path with
        | .ok content => .ok (m.attachSource stream ⟨content, true, 0⟩)
        | .error e => .error (cannotOpen path e)

/-- The place of the device without space. -/
def fullPlace : Place := [octets "dev", octets "full"]

/-- Attaches a file to a stream that is written. `keeps` says whether the file keeps what it holds, and
    `guards` whether a file that is there is an obstacle. -/
def attachOutput (m : Machine) (stream : Nat) (path : Bytes) (keeps guards : Bool) :
    Except Refusal Machine :=
  match Tool.streamOf? path with
  | some n =>
    match m.stream? n with
    | none => .error (cannotCreate path (.system .noEntry))
    | some (.place p) =>
      let files :=
        match m.files.node? p with
        | some (.file content executable) =>
          m.files.put p (.file (if keeps then content else []) executable)
        | _ => m.files
      .ok ({ m with files := files }.setStream stream (some (.place p)))
    | some s => .ok (m.setStream stream (some s))
  | none =>
    match m.files.creationPlace path with
    | .error e => .error (cannotCreate path e)
    | .ok place =>
      match m.files.node? place with
      | some .directory => .error (cannotCreate path (.system .isDirectory))
      | some .pipe => .error .endless
      | some .null => .ok (m.setStream stream (some .discard))
      | some .zeros =>
        .ok (m.setStream stream (some (if place = fullPlace then .full else .discard)))
      | some (.file ..) | some (.tool _) =>
        if guards then .error (cannotCreate path (.system .exists))
        else
          match m.files.write path keeps [] with
          | .ok files => .ok ({ m with files := files }.setStream stream (some (.place place)))
          | .error e => .error (cannotCreate path e)
      | _ =>
        match m.files.write path keeps [] with
        | .ok files => .ok ({ m with files := files }.setStream stream (some (.place place)))
        | .error e => .error (cannotCreate path e)

/-- Attaches what a redirection asks for. -/
def attach (m : Machine) (stream : Nat) (kind : RedirectKind) (target : Bytes) :
    Except Refusal Machine :=
  match kind with
  | .input => attachInput m stream target
  | .here => .ok (m.attachSource stream ⟨target, false, 0⟩)
  | .output => attachOutput m stream target false (m.has 'C')
  | .clobber => attachOutput m stream target false false
  | .append => attachOutput m stream target true false
  | .both =>
    match attachOutput m stream target true false with
    | .error e => .error e
    | .ok opened =>
      if stream = 0 || 2 < stream then
        match attachInput opened stream target with
        | .ok m => .ok m
        | .error _ => .ok opened
      else .ok opened
  | .duplicate =>
    match target with
    | [b] =>
      if b = ascii '-' then .ok (m.setStream stream none)
      else if isDigitByte b then
        match m.stream? (b.toNat - 48) with
        | some s => .ok (m.setStream stream (some s))
        | none => .error (.told (text target ++ ": Bad file descriptor"))
      else .error (.wrong "Syntax error: Bad fd number")
    | _ => .error (.wrong "Syntax error: Bad fd number")

end Conformance.Shell
