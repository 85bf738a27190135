import Conformance.Shell.Tool.Content

/-!
# Changing files

Programs that make, remove, copy, move and list files.
-/

namespace Conformance.Shell.Tool

/-- The machine with other files. -/
def withFiles (m : Machine) (files : FileTree) : Machine := { m with files := files }

/-- The nodes below a place, the place itself included, with their places. -/
def nodesAt (m : Machine) (place : Place) : List (Place × Node) :=
  m.files.nodes.filter fun e => place.isPrefixOf e.1

/-- The machine without what stands at a place and below it. -/
def without (m : Machine) (place : Place) : Machine :=
  withFiles m { m.files with nodes := m.files.nodes.filter fun e => !place.isPrefixOf e.1 }

/-- The path of an entry as programs tell it. -/
def quotedName (path : Bytes) : String := "'" ++ text path ++ "'"

/-- The place that something new is put at, if its directory exists. -/
def newPlace (m : Machine) (path : Bytes) : Except String Place :=
  match m.files.resolve false path with
  | .ok place => .ok place
  | .error (.system .noEntry) =>
    let trimmed := trimEnd (· = Path.slash) path
    match m.files.creationPlace trimmed with
    | .ok place => .ok place
    | .error e => .error (reason e)
  | .error e => .error (reason e)

/-! ## Making and removing -/

/-- The program `touch`. -/
def touch (m : Machine) (args : List Bytes) : Machine :=
  let u := (usage "acfhm" "dtr").withLong
    [("no-create", 'c'), ("date", 'd'), ("reference", 'r')]
  withArguments m "touch" u 1 args fun a =>
    if a.operands.isEmpty then misused m "touch" "missing file operand" 1
    else
      a.operands.foldl
        (fun m path =>
          if (node? m path).isSome || a.has 'c' then m
          else
            match m.files.write path true [] with
            | .ok files => withFiles m files
            | .error e => fail m "touch" ("cannot touch " ++ quotedName path ++ ": " ++ reason e) 1)
        (m.withStatus 0)

/-- The program `rm`. -/
def rm (m : Machine) (args : List Bytes) : Machine :=
  let u := (usage "rRfdiIv" "").withLong
    [("recursive", 'r'), ("force", 'f'), ("dir", 'd'), ("verbose", 'v'), ("interactive", 'i')]
  withArguments m "rm" u 1 args fun a =>
    let recursive := a.has 'r' || a.has 'R'
    if a.operands.isEmpty then if a.has 'f' then m.withStatus 0 else lacking m "rm" 1
    else
      a.operands.foldl
        (fun m path =>
          let refuse (e : String) : Machine :=
            fail m "rm" ("cannot remove " ++ quotedName path ++ ": " ++ e) 1
          let told (m : Machine) (what : String) : Machine :=
            if a.has 'v' then m.print (line (octets (what ++ quotedName path))) else m
          match m.files.resolve false path with
          | .error e =>
            if a.has 'f' && (e = .system .noEntry || e = .system .notDirectory) then m
            else refuse (reason e)
          | .ok place =>
            match m.files.node? place with
            | none => if a.has 'f' then m else refuse "No such file or directory"
            | some .directory =>
              let last := lastName path
              if recursive && (last = octets "." || last = octets "..") then
                fail m "rm" ("refusing to remove '.' or '..' directory: skipping "
                  ++ quotedName path) 1
              else if recursive then
                if place.isEmpty then refuse "it is dangerous to operate recursively on '/'"
                else told (without m place) "removed directory "
              else if a.has 'd' then
                if (m.files.names place).isEmpty then told (without m place) "removed directory "
                else refuse "Directory not empty"
              else refuse "Is a directory"
            | some _ => told (without m place) "removed ")
        (m.withStatus 0)

/-- The program `unlink`. -/
def unlink (m : Machine) (args : List Bytes) : Machine :=
  match args with
  | [path] =>
    match entry? m path with
    | some (_, .directory) =>
      fail m "unlink" ("cannot unlink " ++ quotedName path ++ ": Is a directory") 1
    | some (place, _) => (without m place).withStatus 0
    | none =>
      fail m "unlink" ("cannot unlink " ++ quotedName path ++ ": No such file or directory") 1
  | [] => lacking m "unlink" 1
  | _ => excess m "unlink" (args[1]?.getD []) 1

/-- The program `mkdir`. -/
def mkdir (m : Machine) (args : List Bytes) : Machine :=
  let u := (usage "pvZ" "m").withLong [("parents", 'p'), ("mode", 'm'), ("verbose", 'v')]
  withArguments m "mkdir" u 1 args fun a =>
    if a.operands.isEmpty then lacking m "mkdir" 1
    else
      a.operands.foldl
        (fun m path =>
          let refuse (e : String) : Machine :=
            fail m "mkdir" ("cannot create directory " ++ quotedName path ++ ": " ++ e) 1
          let told (m : Machine) : Machine :=
            if a.has 'v' then m.print (line (octets ("mkdir: created directory " ++ quotedName path)))
            else m
          match node? m path with
          | some .directory => if a.has 'p' then m else refuse "File exists"
          | some _ => refuse "File exists"
          | none =>
            if a.has 'p' then
              let names := (Path.pieces path).filter (!·.isEmpty)
              let fronts := (List.range names.length).map fun i =>
                (if Path.isAbsolute path then octets "/" else [])
                  ++ (octets "/").intercalate (names.take (i + 1))
              match fronts.find? fun f =>
                match node? m f with | some .directory | none => false | some _ => true with
              | some _ => refuse "Not a directory"
              | none => told (withFiles m (m.files.install path .directory))
            else
              match newPlace m path with
              | .ok place =>
                if (m.files.node? place).isSome then refuse "File exists"
                else told (withFiles m (m.files.put place .directory))
              | .error e => refuse e)
        (m.withStatus 0)

/-- The program `rmdir`. -/
def rmdir (m : Machine) (args : List Bytes) : Machine :=
  let u := (usage "pv" "i").withLong [("parents", 'p'), ("ignore-fail-on-non-empty", 'v')]
  withArguments m "rmdir" u 1 args fun a =>
    if a.operands.isEmpty then lacking m "rmdir" 1
    else
      let removeOne (m : Machine) (path : Bytes) : Except String Machine :=
        match entry? m path with
        | some (place, .directory) =>
          if (m.files.names place).isEmpty then .ok (without m place)
          else .error "Directory not empty"
        | some _ => .error "Not a directory"
        | none => .error "No such file or directory"
      a.operands.foldl
        (fun m path =>
          let names := (Path.pieces path).filter (!·.isEmpty)
          let fronts := (List.range names.length).reverse.map fun i =>
            (if Path.isAbsolute path then octets "/" else [])
              ++ (octets "/").intercalate (names.take (i + 1))
          (if a.has 'p' then fronts else [path]).foldl
            (fun m p =>
              if m.status != 0 then m
              else
                match removeOne m p with
                | .ok m => m
                | .error e =>
                  fail m "rmdir" ("failed to remove " ++ quotedName p ++ ": " ++ e) 1)
            m)
        (m.withStatus 0)

/-! ## The right to be run -/

/-- Whether a file may be run after its mode was changed; `now` says whether it may be before. -/
def modeAllows? (mode : Bytes) (now : Bool) : Option Bool :=
  if !mode.isEmpty && mode.all fun b => ascii '0' ≤ b && b ≤ ascii '7' then
    let n := (readDigits 8 0 0 mode).1
    some (Nat.land n 0x49 != 0)
  else
    (cutAt (· = ascii ',') mode).foldl
      (fun now? clause =>
        now?.bind fun now =>
          let who := clause.takeWhile fun b => isIn b ['u', 'g', 'o', 'a']
          match clause.drop who.length with
          | [] => none
          | op :: letters =>
            if !isIn op ['+', '-', '='] then none
            else if !letters.all fun b => isIn b ['r', 'w', 'x', 'X', 's', 't', 'u', 'g', 'o'] then
              none
            else
              let everyone := who.isEmpty || who.contains (ascii 'a')
                || (['u', 'g', 'o'].all fun c => who.contains (ascii c))
              let runs := letters.contains (ascii 'x')
                || (letters.contains (ascii 'X') && now)
              match charOf op with
              | '+' => some (now || runs)
              | '-' => some (if everyone && letters.contains (ascii 'x') then false else now)
              | _ => some (runs || (!everyone && now)))
      (some now)

/-- The program `chmod`. -/
def chmod (m : Machine) (args : List Bytes) : Machine :=
  let isMode (a : Bytes) : Bool :=
    a.head? = some (ascii '-') && a.tail.head?.any fun b => isIn b ['r', 'w', 'x', 'X', 's', 't']
  let modes := args.filter isMode
  let u := (usage "Rfvc" "").withLong [("recursive", 'R'), ("verbose", 'v'), ("silent", 'f')]
  withArguments m "chmod" u 1 (args.filter fun a => !isMode a) fun a =>
    let (mode, paths) : Option Bytes × List Bytes :=
      match modes, a.operands with
      | mode :: _, paths => (some mode, paths)
      | [], mode :: paths => (some mode, paths)
      | [], [] => (none, [])
    match mode with
    | none => lacking m "chmod" 1
    | some mode =>
      if (modeAllows? mode false).isNone then
        misused m "chmod" ("invalid mode: " ++ quotedName mode) 1
      else if paths.isEmpty then
        misused m "chmod" ("missing operand after " ++ quotedName mode) 1
      else
        let change (m : Machine) (place : Place) : Machine :=
          match m.files.node? place with
          | some (.file c now) =>
            withFiles m (m.files.put place (.file c ((modeAllows? mode now).getD now)))
          | _ => m
        paths.foldl
          (fun m path =>
            match m.files.resolve true path with
            | .ok place =>
              if a.has 'R' then (nodesAt m place).foldl (fun m e => change m e.1) m
              else if (m.files.node? place).isSome then change m place
              else fail m "chmod" ("cannot access " ++ quotedName path
                ++ ": No such file or directory") 1
            | .error e =>
              if a.has 'f' then m.withStatus 1
              else fail m "chmod" ("cannot access " ++ quotedName path ++ ": " ++ reason e) 1)
          (m.withStatus 0)

/-! ## Copying, moving and linking -/

/-- The operands of a program that puts sources to a target: the sources and the target, and whether the
    target must be a directory. -/
def sourcesAndTarget? (a : Arguments) : Option (List Bytes × Bytes × Bool) :=
  match a.value? 't' with
  | some dir => some (a.operands, dir, true)
  | none =>
    match a.operands.reverse with
    | target :: sources =>
      if sources.isEmpty then none else some (sources.reverse, target, 1 < sources.length)
    | [] => none

/-- Where a source goes that is put at a target. -/
def destination (m : Machine) (a : Arguments) (source target : Bytes) : Bytes :=
  if node? m target = some .directory && !a.has 'T' then Path.entry target (lastName source)
  else target

/-- The options of programs that put sources to a target. -/
def placingOptions (flags : String) : Usage :=
  (usage flags "tS").withLong
    [("force", 'f'), ("no-clobber", 'n'), ("interactive", 'i'), ("verbose", 'v'),
     ("target-directory", 't'), ("no-target-directory", 'T'), ("recursive", 'r'),
     ("archive", 'a'), ("update", 'u'), ("symbolic", 's'), ("preserve", 'p'),
     ("no-dereference", 'P'), ("dereference", 'L')]

/-- Puts sources to a target, one after the other. -/
def placeAll (m : Machine) (tool : String) (a : Arguments)
    (place : Machine → Bytes → Bytes → Except String Machine) : Machine :=
  match sourcesAndTarget? a with
  | none =>
    match a.operands with
    | [] => misused m tool "missing file operand" 1
    | x :: _ => misused m tool ("missing destination file operand after " ++ quotedName x) 1
  | some (sources, target, needsDirectory) =>
    if needsDirectory && node? m target != some .directory then
      fail m tool ("target " ++ quotedName target ++ ": "
        ++ (if (node? m target).isNone then "No such file or directory" else "Not a directory")) 1
    else
      sources.foldl
        (fun m source =>
          match place m source (destination m a source target) with
          | .ok m => m
          | .error e => fail m tool e 1)
        (m.withStatus 0)

/-- Puts a copy of a file at a place. -/
def copyFile (m : Machine) (node : Node) (path : Bytes) : Except String Machine :=
  match node with
  | .file content executable =>
    match node? m path with
    | some (.file _ kept) =>
      match m.files.resolve true path with
      | .ok place => .ok (withFiles m (m.files.put place (.file content kept)))
      | .error e => .error (reason e)
    | some .directory => .error "Is a directory"
    | some _ => .ok m
    | none =>
      match m.files.creationPlace path with
      | .ok place => .ok (withFiles m (m.files.put place (.file content executable)))
      | .error e => .error (reason e)
  | node =>
    match newPlace m path with
    | .ok place => .ok (withFiles m (m.files.put place node))
    | .error e => .error e

/-- The program `cp`. -/
def cp (m : Machine) (args : List Bytes) : Machine :=
  withArguments m "cp" (placingOptions "rRafpinuvdPLHTlsx") 1 args fun a =>
    let recursive := a.has 'r' || a.has 'R' || a.has 'a'
    let keepsLinks := (a.has 'd' || a.has 'P' || recursive) && !a.has 'L'
    placeAll m "cp" a fun m source path =>
      let found : Except String (Place × Node) :=
        match m.files.resolve (!keepsLinks) source with
        | .ok place =>
          match m.files.node? place with
          | some n => .ok (place, n)
          | none => .error "No such file or directory"
        | .error e => .error (reason e)
      let told (m : Machine) : Machine :=
        if a.has 'v' then m.print (line (octets (quotedName source ++ " -> " ++ quotedName path)))
        else m
      match found with
      | .error e => .error ("cannot stat " ++ quotedName source ++ ": " ++ e)
      | .ok (place, .directory) =>
        if !recursive then .error ("-r not specified; omitting directory " ++ quotedName source)
        else
          match newPlace m path with
          | .error e => .error ("cannot create directory " ++ quotedName path ++ ": " ++ e)
          | .ok new =>
            if place.isPrefixOf new then
              .error ("cannot copy a directory, " ++ quotedName source ++ ", into itself, "
                ++ quotedName path)
            else
              let copied := (nodesAt m place).foldl
                (fun m e => withFiles m (m.files.put (new ++ e.1.drop place.length) e.2)) m
              .ok (told copied)
      | .ok (place, node) =>
        let same : Bool :=
          match m.files.resolve true path with | .ok p => p = place | .error _ => false
        if same then
          .error (quotedName source ++ " and " ++ quotedName path ++ " are the same file")
        else if a.has 'n' && (node? m path).isSome then .ok m
        else if a.has 's' || a.has 'l' then
          match newPlace m path with
          | .ok new =>
            if (m.files.node? new).isSome && !a.has 'f' then
              .error ("cannot create link " ++ quotedName path ++ ": File exists")
            else .ok (withFiles m (m.files.put new (if a.has 's' then .link source else node)))
          | .error e => .error ("cannot create link " ++ quotedName path ++ ": " ++ e)
        else
          match copyFile m node path with
          | .ok m => .ok (told m)
          | .error "Is a directory" =>
            .error ("cannot overwrite directory " ++ quotedName path ++ " with non-directory")
          | .error e => .error ("cannot create regular file " ++ quotedName path ++ ": " ++ e)

/-- The program `mv`. -/
def mv (m : Machine) (args : List Bytes) : Machine :=
  withArguments m "mv" (placingOptions "finuvTb") 1 args fun a =>
    placeAll m "mv" a fun m source path =>
      match entry? m source, newPlace m path with
      | none, _ =>
        let e := match m.files.resolve false source with
          | .error e => reason e
          | .ok _ => "No such file or directory"
        .error ("cannot stat " ++ quotedName source ++ ": " ++ e)
      | some _, .error e =>
        .error ("cannot move " ++ quotedName source ++ " to " ++ quotedName path ++ ": " ++ e)
      | some (old, node), .ok new =>
        if old = new then
          .error (quotedName source ++ " and " ++ quotedName path ++ " are the same file")
        else if old.isPrefixOf new then
          .error ("cannot move " ++ quotedName source ++ " to a subdirectory of itself, "
            ++ quotedName path)
        else if a.has 'n' && (m.files.node? new).isSome then .ok m
        else
          match node, m.files.node? new with
          | .directory, some .directory =>
            if (m.files.names new).isEmpty then .ok (moved m a source path old new)
            else .error ("cannot overwrite " ++ quotedName path ++ ": Directory not empty")
          | .directory, some _ =>
            .error ("cannot overwrite non-directory " ++ quotedName path ++ " with directory "
              ++ quotedName source)
          | _, some .directory =>
            .error ("cannot overwrite directory " ++ quotedName path ++ " with non-directory")
          | _, _ => .ok (moved m a source path old new)
where
  /-- The machine after what stood at a place was moved to another one. -/
  moved (m : Machine) (a : Arguments) (source path : Bytes) (old new : Place) : Machine :=
    let nodes := nodesAt m old
    let m := without (without m new) old
    let m := nodes.foldl
      (fun m e => withFiles m (m.files.put (new ++ e.1.drop old.length) e.2)) m
    if a.has 'v' then
      m.print (line (octets ("renamed " ++ quotedName source ++ " -> " ++ quotedName path)))
    else m

/-- The program `ln`. -/
def ln (m : Machine) (args : List Bytes) : Machine :=
  withArguments m "ln" (placingOptions "sfinvTrLPd") 1 args fun a =>
    let a := match a.operands, a.value? 't' with
      | [x], none => { a with operands := [x, octets "."] }
      | _, _ => a
    let a := if a.has 'n' then { a with options := ('T', []) :: a.options } else a
    placeAll m "ln" a fun m source path =>
      let what := if a.has 's' then "symbolic link" else "hard link"
      let make (m : Machine) (place : Place) : Except String Machine :=
        if a.has 's' then .ok (withFiles m (m.files.put place (.link source)))
        else
          match m.files.lookup source with
          | .ok .directory => .error (text source ++ ": hard link not allowed for directory")
          | .ok node => .ok (withFiles m (m.files.put place node))
          | .error e => .error ("failed to access " ++ quotedName source ++ ": " ++ reason e)
      match newPlace m path with
      | .error e => .error ("failed to create " ++ what ++ " " ++ quotedName path ++ ": " ++ e)
      | .ok place =>
        match m.files.node? place with
        | none => make m place
        | some .directory =>
          .error (text path ++ ": cannot overwrite directory")
        | some _ =>
          if a.has 'f' then make m place
          else .error ("failed to create " ++ what ++ " " ++ quotedName path ++ ": File exists")

/-! ## Links and names -/

/-- The path of a place. -/
def pathOf (place : Place) : Bytes :=
  if place.isEmpty then octets "/" else place.flatMap fun n => Path.slash :: n

/-- The program `readlink`. -/
def readlink (m : Machine) (args : List Bytes) : Machine :=
  let u := (usage "femnqsvz" "").withLong
    [("canonicalize", 'f'), ("canonicalize-existing", 'e'), ("canonicalize-missing", 'm'),
     ("no-newline", 'n')]
  withArguments m "readlink" u 1 args fun a =>
    if a.operands.isEmpty then lacking m "readlink" 1
    else
      let resolves := a.last? ['f', 'e', 'm']
      a.operands.foldl
        (fun m path =>
          let target? : Option Bytes :=
            match resolves with
            | none => match entry? m path with | some (_, .link target) => some target | _ => none
            | some kind =>
              let place := if kind = 'e' then m.files.resolve true path
                else m.files.creationPlace path
              match place with
              | .ok p => if kind = 'e' && (m.files.node? p).isNone then none else some (pathOf p)
              | .error _ => none
          match target? with
          | some t => m.print (if a.has 'n' && a.operands.length = 1 then t else line t)
          | none => m.withStatus 1)
        (m.withStatus 0)

/-- The program `realpath`. -/
def realpath (m : Machine) (args : List Bytes) : Machine :=
  withArguments m "realpath" (usage "emLPqsz" "") 1 args fun a =>
    if a.operands.isEmpty then lacking m "realpath" 1
    else
      a.operands.foldl
        (fun m path =>
          match if a.has 'e' then m.files.resolve true path else m.files.creationPlace path with
          | .ok place => m.print (line (pathOf place))
          | .error e => fail m "realpath" (text path ++ ": " ++ reason e) 1)
        (m.withStatus 0)

/-- The last name of a path, without an ending. -/
def baseOf (path ending : Bytes) : Bytes :=
  if path.isEmpty then []
  else if path.all (· = Path.slash) then octets "/"
  else
    let name := lastName path
    if ending.reverse.isPrefixOf name.reverse && ending.length < name.length then
      name.take (name.length - ending.length)
    else name

/-- The program `basename`. -/
def basename (m : Machine) (args : List Bytes) : Machine :=
  let u := ((usage "az" "s").withLong [("multiple", 'a'), ("suffix", 's')]).strict
  withArguments m "basename" u 1 args fun a =>
    match a.operands with
    | [] => lacking m "basename" 1
    | path :: rest =>
      if a.has 'a' || a.has 's' then
        (a.operands.foldl (fun m p => m.print (line (baseOf p ((a.value? 's').getD [])))) m).withStatus 0
      else if 1 < rest.length then excess m "basename" (rest[1]?.getD []) 1
      else (m.print (line (baseOf path (rest.head?.getD [])))).withStatus 0

/-- The path of the directory of a path. -/
def directoryOf (path : Bytes) : Bytes :=
  let trimmed := trimEnd (· = Path.slash) path
  if trimmed.isEmpty then if path.isEmpty then octets "." else octets "/"
  else
    let front := trimEnd (· != Path.slash) trimmed
    if front.isEmpty then octets "."
    else
      let front := trimEnd (· = Path.slash) front
      if front.isEmpty then octets "/" else front

/-- The program `dirname`. -/
def dirname (m : Machine) (args : List Bytes) : Machine :=
  withArguments m "dirname" (usage "z" "") 1 args fun a =>
    if a.operands.isEmpty then lacking m "dirname" 1
    else (a.operands.foldl (fun m p => m.print (line (directoryOf p))) m).withStatus 0

/-! ## Listing -/

/-- The size of what stands at a place. -/
def sizeOf : Node → Nat
  | .file content _ => content.length
  | .link target => target.length
  | .directory => 4096
  | _ => 0

/-- The letters that tell what stands at a place and who may do what with it. -/
def modeText : Node → String
  | .file _ executable => if executable then "-rwxr-xr-x" else "-rw-r--r--"
  | .tool _ => "-rwxr-xr-x"
  | .directory => "drwxr-xr-x"
  | .link _ => "lrwxrwxrwx"
  | .pipe => "prw-r--r--"
  | .null | .zeros => "crw-rw-rw-"

/-- The mark behind a name that tells what it is of. -/
def classMark : Node → Bytes
  | .directory => octets "/"
  | .link _ => octets "@"
  | .pipe => octets "|"
  | .file _ true | .tool _ => octets "*"
  | _ => []

/-- A line of `ls`. -/
def listedLine (a : Arguments) (name : Bytes) (node : Node) : Bytes :=
  let shown := name ++ (if a.has 'F' then classMark node
    else if a.has 'p' && node = .directory then octets "/" else [])
  if a.has 'l' then
    let target := match node with | .link t => octets " -> " ++ t | _ => []
    line (octets (modeText node ++ " 1 root root " ++ toString (sizeOf node) ++ " Jan  1 00:00 ")
      ++ shown ++ target)
  else line shown

/-- The entries of a directory as `ls` lists them. -/
def entriesOf (m : Machine) (a : Arguments) (place : Place) : List (Bytes × Node) :=
  let named := (m.files.names place).filterMap fun n =>
    (m.files.node? (place ++ [n])).map fun node => (n, node)
  let dots := if a.has 'a' then [(octets ".", Node.directory), (octets "..", Node.directory)] else []
  let hidden := a.has 'a' || a.has 'A'
  let shown := (dots ++ named).filter fun e => hidden || e.1.head? != some (ascii '.')
  let sorted :=
    if a.has 'U' || a.has 'f' then shown
    else if a.has 'S' then
      (shown.mergeSort fun x y => Path.compareOctets x.1 y.1 != .gt).mergeSort fun x y =>
        sizeOf y.2 ≤ sizeOf x.2
    else if a.has 't' then shown.reverse
    else shown.mergeSort fun x y => Path.compareOctets x.1 y.1 != .gt
  if a.has 'r' then sorted.reverse else sorted

/-- The directories below a path that `ls` lists. `fuel` bounds the depth. -/
def directoriesBelow (m : Machine) (a : Arguments) : (fuel : Nat) → Bytes → Place →
    List (Bytes × Place)
  | 0, _, _ => []
  | fuel + 1, path, place =>
    (path, place) :: (entriesOf m a place).flatMap fun (n, node) =>
      if node = .directory && n != octets "." && n != octets ".." then
        directoriesBelow m a fuel (Path.entry path n) (place ++ [n])
      else []

/-- The program `ls`. -/
def ls (m : Machine) (args : List Bytes) : Machine :=
  let u := (usage "aAbBcCdfFghHiklLmnNopqQrRsStuUvxX1Z" "wI").withLong
    [("all", 'a'), ("almost-all", 'A'), ("directory", 'd'), ("reverse", 'r'), ("recursive", 'R'),
     ("color", 'Z'), ("classify", 'F')]
  withArguments m "ls" u 2 args fun a =>
    let operands := if a.operands.isEmpty then [octets "."] else a.operands
    let sorted := operands.mergeSort fun x y => Path.compareOctets x y != .gt
    let sorted := if a.has 'r' then sorted.reverse else sorted
    let look (m : Machine) (path : Bytes) : Except IoError (Place × Node) :=
      match m.files.resolve (!(a.has 'd' || a.has 'l')) path with
      | .ok place =>
        match m.files.node? place with
        | some n => .ok (place, n)
        | none => .error (.system .noEntry)
      | .error e => .error e
    let (found, m) := sorted.foldl
      (fun (acc : List (Bytes × Place × Node) × Machine) path =>
        match look acc.2 path with
        | .ok f => ((path, f) :: acc.1, acc.2)
        | .error e =>
          match entry? acc.2 path with
          | some f => if reason e = "No such file or directory" then ((path, f) :: acc.1, acc.2)
              else (acc.1, fail acc.2 "ls" ("cannot access '" ++ text path ++ "': " ++ reason e) 2)
          | none => (acc.1, fail acc.2 "ls" ("cannot access '" ++ text path ++ "': " ++ reason e) 2))
      ([], m.withStatus 0)
    let found := found.reverse
    let isListed (n : Node) : Bool := n = .directory && !a.has 'd'
    let files := found.filter fun f => !isListed f.2.2
    let dirs := (found.filter fun f => isListed f.2.2).flatMap fun f =>
      if a.has 'R' then directoriesBelow m a (m.files.nodes.length + 1) f.1 f.2.1
      else [(f.1, f.2.1)]
    let titled := 1 < operands.length || a.has 'R'
    let shown := files.flatMap fun f => listedLine a f.1 f.2.2
    let listing (dir : Bytes × Place) : Bytes :=
      let entries := entriesOf m a dir.2
      let total := if a.has 'l' then
          let blocks := entries.foldl (fun n e => n + (if sizeOf e.2 = 0 then 0 else 4)) 0
          line (octets ("total " ++ toString blocks))
        else []
      (if titled then line (dir.1 ++ octets ":") else []) ++ total
        ++ entries.flatMap fun e => listedLine a e.1 e.2
    let groups := (if files.isEmpty then [] else [shown]) ++ dirs.map listing
    m.print ((octets "\n").intercalate groups)

/-! ## Other programs -/

/-- What `stat` tells in the place of a letter. -/
def statField (path : Bytes) (node : Node) (letter : Char) : Bytes :=
  match letter with
  | 'n' => path
  | 's' => number (sizeOf node)
  | 'a' =>
    octets (match node with
      | .directory | .file _ true | .tool _ => "755"
      | .link _ => "777"
      | .null | .zeros => "666"
      | _ => "644")
  | 'A' => octets (modeText node)
  | 'U' | 'G' => octets "root"
  | 'u' | 'g' => octets "0"
  | 'h' => octets "1"
  | 'F' =>
    octets (match node with
      | .directory => "directory"
      | .link _ => "symbolic link"
      | .pipe => "fifo"
      | .null | .zeros => "character special file"
      | .file [] _ => "regular empty file"
      | _ => "regular file")
  | 'N' =>
    octets (quotedName path) ++ (match node with | .link t => octets (" -> " ++ quotedName t) | _ => [])
  | '%' => octets "%"
  | _ => octets "0"

/-- A format of `stat` with its fields filled in. `escapes` says whether a backslash has a meaning. -/
def statText (path : Bytes) (node : Node) : Bytes → Bytes
  | [] => []
  | [b] => [b]
  | b :: c :: rest =>
    if b = ascii '%' then statField path node (charOf c) ++ statText path node rest
    else b :: statText path node (c :: rest)

/-- The program `stat`. -/
def stat (m : Machine) (args : List Bytes) : Machine :=
  let u := (usage "Lft" "cp").withLong [("format", 'c'), ("printf", 'p'), ("dereference", 'L')]
  withArguments m "stat" u 1 args fun a =>
    if a.operands.isEmpty then lacking m "stat" 1
    else
      a.operands.foldl
        (fun m path =>
          let found := if a.has 'L' then (node? m path).map fun n => (([] : Place), n)
            else entry? m path
          match found with
          | none =>
            fail m "stat" ("cannot statx " ++ quotedName path ++ ": No such file or directory") 1
          | some (_, node) =>
            match a.value? 'c' with
            | some f => m.print (line (statText path node f))
            | none => m.print (line (octets "  File: " ++ path)))
        (m.withStatus 0)

/-- The program `mktemp`. -/
def mktemp (m : Machine) (args : List Bytes) : Machine :=
  let u := (usage "dqtu" "p").withLong [("directory", 'd'), ("dry-run", 'u'), ("quiet", 'q')]
  withArguments m "mktemp" u 1 args fun a =>
    let template := a.operands.head?.getD (octets "tmp.XXXXXXXXXX")
    let inTemp := a.operands.isEmpty || a.has 't' || a.has 'p'
    let dir := (a.value? 'p').getD (octets "/tmp")
    let marks := (template.reverse.takeWhile (· = ascii 'X')).length
    if marks < 3 then fail m "mktemp" ("too few X's in template " ++ quotedName template) 1
    else
      let front := template.take (template.length - marks)
      let id := number (m.files.nodes.length + m.lastId)
      let filled := front ++ List.replicate (marks - id.length) (ascii 'a') ++ id.take marks
      let path := if inTemp then Path.entry dir filled else filled
      match newPlace m path with
      | .ok place =>
        let node := if a.has 'd' then Node.directory else .file [] false
        let m := if a.has 'u' then m else withFiles m (m.files.put place node)
        (m.print (line path)).withStatus 0
      | .error e =>
        fail m "mktemp" ("failed to create file via template " ++ quotedName path ++ ": " ++ e) 1

/-- The program `truncate`. -/
def truncate (m : Machine) (args : List Bytes) : Machine :=
  let u := (usage "co" "sr").withLong [("size", 's'), ("no-create", 'c'), ("reference", 'r')]
  withArguments m "truncate" u 1 args fun a =>
    let value := (a.value? 's').getD []
    let sign := value.takeWhile fun b => isIn b ['+', '-', '<', '>', '/', '%']
    match count? (value.drop sign.length) with
    | none => misused m "truncate" "you must specify either '--size' or '--reference'" 1
    | some n =>
      a.operands.foldl
        (fun m path =>
          let now := match node? m path with | some (.file c _) => c | _ => []
          let size := match sign.map charOf with
            | ['+'] => now.length + n
            | ['-'] => now.length - n
            | ['<'] => min now.length n
            | ['>'] => max now.length n
            | _ => n
          if a.has 'c' && (node? m path).isNone then m
          else
            match m.files.write path false (now.take size ++ List.replicate (size - now.length) 0) with
            | .ok files => withFiles m files
            | .error e =>
              fail m "truncate" ("cannot open " ++ quotedName path ++ " for writing: " ++ reason e) 1)
        (m.withStatus 0)

/-- The program `dd`. -/
def dd (m : Machine) (args : List Bytes) : Machine :=
  let value? (name : String) : Option Bytes :=
    args.reverse.findSome? fun a => afterFront? (octets (name ++ "=")) a
  let size (name : String) (default : Nat) : Nat := ((value? name).bind count?).getD default
  let block := size "bs" (size "ibs" 512)
  let limit? := (value? "count").bind count? |>.map (· * block)
  let source? : Except String Bytes × Machine :=
    match value? "if" with
    | none =>
      let (bs, m) := m.takeInput
      (.ok bs, m)
    | some path =>
      match node? m path, limit? with
      | some .zeros, some n => (.ok (List.replicate n 0), m)
      | _, _ => contentOf m path
  match source? with
  | (.error e, m) =>
    fail m "dd" ("failed to open " ++ quotedName ((value? "if").getD []) ++ ": " ++ e) 1
  | (.ok bs, m) =>
    let bs := bs.drop (size "skip" 0 * block)
    let bs := match limit? with | some n => bs.take n | none => bs
    let told (m : Machine) : Machine :=
      if value? "status" = some (octets "none") then m
      else
        let records := toString (bs.length / block) ++ "+" ++ (if bs.length % block = 0 then "0" else "1")
        (m.warn (records ++ " records in")).warn (records ++ " records out")
    match value? "of" with
    | none => (told (m.print bs)).withStatus 0
    | some path =>
      let keeps := ((value? "conv").map text).any fun c => c = "notrunc"
      let old := match node? m path with | some (.file c _) => c | _ => []
      let before := size "seek" 0 * size "bs" (size "obs" 512)
      let front := old.take before ++ List.replicate (before - old.length) 0
      let new := front ++ bs ++ (if keeps then old.drop (before + bs.length) else [])
      match m.files.write path false new with
      | .ok files => (told (withFiles m files)).withStatus 0
      | .error e => fail m "dd" ("failed to open " ++ quotedName path ++ ": " ++ reason e) 1

end Conformance.Shell.Tool
