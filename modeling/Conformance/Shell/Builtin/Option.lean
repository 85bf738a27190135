import Conformance.Shell.Machine

/-!
# Options of the shell

Options are set by letters or by names, both when the shell is started and by its command `set`.
-/

namespace Conformance.Shell.Builtin

/-- The names of the options, with their letters. -/
def optionNames : List (String × Char) :=
  [("errexit", 'e'), ("noglob", 'f'), ("ignoreeof", 'I'), ("interactive", 'i'), ("monitor", 'm'),
    ("noexec", 'n'), ("stdin", 's'), ("xtrace", 'x'), ("verbose", 'v'), ("vi", 'V'),
    ("emacs", 'E'), ("noclobber", 'C'), ("allexport", 'a'), ("notify", 'b'), ("nounset", 'u'),
    ("privileged", 'p'), ("nolog", '\x01'), ("debug", '\x02')]

/-- A text filled with blanks to a width. -/
def padded (width : Nat) (s : String) : String :=
  s ++ String.ofList (List.replicate (width - s.length) ' ')

/-- The machine after the options were listed, as a table or as commands. -/
def listOptions (m : Machine) (table : Bool) : Machine :=
  let told (o : String × Char) : String :=
    if table then padded 16 o.1 ++ (if m.has o.2 then "on" else "off")
    else "set " ++ (if m.has o.2 then "-o " else "+o ") ++ o.1
  let head : List String := if table then ["Current option settings"] else []
  (head ++ optionNames.map told).foldl (fun m s => m.print (line (octets s))) m

/-- What a list of options leaves. -/
structure OptionsRead where
  machine : Machine
  /-- Whether a script follows as an argument. -/
  inline : Bool
  rest : List Bytes
  /-- Whether the arguments are to be dropped, although no others follow. -/
  drops : Bool

/-- Sets the options in the letters of an argument. A name may follow for each `o`. -/
def setLetters (starting on : Bool) (m : Machine) (inline : Bool) (rest : List Bytes) :
    Bytes → Except String (Machine × Bool × List Bytes)
  | [] => .ok (m, inline, rest)
  | b :: bs =>
    let c := charOf b
    if starting && c = 'c' then setLetters starting on m true rest bs
    else if starting && c = 'l' then setLetters starting on m inline rest bs
    else if c = 'o' then
      match rest with
      | [] => setLetters starting on (listOptions m on) inline [] bs
      | name :: rest =>
        match optionNames.find? fun o => octets o.1 = name with
        | some (_, letter) => setLetters starting on (m.setOption letter on) inline rest bs
        | none => .error ("Illegal option " ++ (if on then "-o " else "+o ") ++ text name)
    else if optionNames.any fun o => o.2 = c then
      setLetters starting on (m.setOption c on) inline rest bs
    else .error ("Illegal option " ++ (if on then "-" else "+") ++ text [b])

/-- Sets the options at the front of arguments. `fuel` bounds their number. -/
def setOptions (starting : Bool) : (fuel : Nat) → Machine → (inline : Bool) → List Bytes →
    Except String OptionsRead
  | 0, m, inline, args => .ok ⟨m, inline, args, false⟩
  | fuel + 1, m, inline, args =>
    match args with
    | [] => .ok ⟨m, inline, [], false⟩
    | a :: rest =>
      let sign := a.head?.map charOf
      if a = octets "-" then
        let m := if starting then m else (m.setOption 'x' false).setOption 'v' false
        .ok ⟨m, inline, rest, false⟩
      else if a = octets "--" then .ok ⟨m, inline, rest, !starting && rest.isEmpty⟩
      else if sign = some '-' || sign = some '+' then do
        let (m, inline, rest) ← setLetters starting (sign = some '-') m inline rest a.tail
        setOptions starting fuel m inline rest
      else .ok ⟨m, inline, args, false⟩

end Conformance.Shell.Builtin
