import GalaxyProjector.Text.Unicode

/-!
The `.env` file format and loading it into an environment.

A file is read line by line; a line that opens a quote runs on until the quote
closes. Each line is blank, a comment, or `KEY=VALUE`, optionally after
`export`. Keys start with a letter or `_` and go on with letters, digits, `_`
and `.`. In a value, single quotes keep everything, double quotes allow the
escapes `\\ \' \" \$ \n` and a space, `$NAME` and `${NAME}` are replaced by the
environment's value or else the value the file gave earlier, and an unquoted
blank ends the value, after which only a comment may follow. A `$NAME` runs
over alphanumeric characters in the Unicode sense.

A byte order mark at the start of the file is skipped.

Loading stops at the first bad line; the lines before it are already loaded.
A key the environment already has keeps its value.
-/

namespace GalaxyProjector

namespace Dotenv

inductive Error where
  | notFound
  | lineParse (line : String) (index : Nat)
  deriving DecidableEq, Repr

def Error.message : Error → String
  | .notFound => "path not found"
  | .lineParse line index => "Error parsing line: '" ++ line ++ "', error at line index: " ++
      toString index

abbrev Env := List (String × String)

/-- The value the system's lookup by name gives: the text after `name=` in the
first `KEY=VALUE` entry that starts with it. A name holding `=` so reaches into
a value (`A=B` gives `C` when `A` is `B=C`); an empty name, or one with a NUL
character, gives nothing. -/
def Env.lookup (env : Env) (name : String) : Option String :=
  if name.isEmpty || name.contains '\x00' then none
  else
    let pre := name ++ "="
    let entries := env.map fun (k, v) => k ++ "=" ++ v
    (entries.find? (·.startsWith pre)).map fun e => String.ofList (e.toList.drop pre.length)

inductive Scan where
  | complete
  | escape
  | strongOpen
  | strongOpenEscape
  | weakOpen
  | weakOpenEscape
  | comment
  | whiteSpace
  deriving DecidableEq, Repr

def Scan.step : Scan → Char → Scan
  | .whiteSpace, c =>
    if c == '#' then .comment else if c == '\\' then .escape
    else if c == '"' then .weakOpen else if c == '\'' then .strongOpen else .complete
  | .escape, _ => .complete
  | .complete, c =>
    if Text.isWhite c && c != '\n' && c != '\r' then .whiteSpace
    else if c == '\\' then .escape else if c == '"' then .weakOpen
    else if c == '\'' then .strongOpen else .complete
  | .weakOpen, c => if c == '\\' then .weakOpenEscape else if c == '"' then .complete else .weakOpen
  | .weakOpenEscape, _ => .weakOpen
  | .strongOpen, c =>
    if c == '\\' then .strongOpenEscape else if c == '\'' then .complete else .strongOpen
  | .strongOpenEscape, _ => .strongOpen
  | .comment, _ => .comment

def Scan.run (s : Scan) : List Char → Nat → Scan × Nat
  | [], pos => (s, pos)
  | c :: cs, pos =>
    match s.step c with
    | .comment => (.comment, pos)
    | s' => s'.run cs (pos + 1)

/-- The text cut into pieces as read line by line: each piece ends with its
newline, except perhaps the last. `cur` holds the current piece, reversed. -/
def chunks (cur : List Char) : List Char → List (List Char)
  | [] => if cur.isEmpty then [] else [cur.reverse]
  | c :: cs => if c == '\n' then (c :: cur).reverse :: chunks [] cs else chunks (c :: cur) cs

def dropNewline (cs : List Char) : List Char :=
  match cs.reverse with
  | '\n' :: '\r' :: r => r.reverse
  | '\n' :: r => r.reverse
  | _ => cs

def isCommentLine (cs : List Char) : Bool := (cs.dropWhile Text.isWhite).head? == some '#'

/-- Join chunks into logical lines. A quote left open at the end of the text
is an error naming everything read since the line began. -/
def logicalLines (s : Scan) (buf : List Char) : List (List Char) → List (Except Error (List Char))
  | [] =>
    if s == .complete then []
    else [.error (.lineParse (String.ofList buf) (String.ofList buf).utf8ByteSize)]
  | c :: rest =>
    let buf' := buf ++ c
    if isCommentLine buf' then .ok [] :: logicalLines .complete [] rest
    else
      match s.run c 0 with
      | (.complete, _) => .ok (dropNewline buf') :: logicalLines .complete [] rest
      | (.comment, pos) => .ok (buf ++ c.take pos) :: logicalLines .complete [] rest
      | (s', _) => logicalLines s' buf' rest

inductive Subst where
  | none
  | block
  | braced
  deriving DecidableEq, Repr

structure ValueScan where
  strong : Bool := false
  weak : Bool := false
  escaped : Bool := false
  expectingEnd : Bool := false
  subst : Subst := .none
  name : String := ""
  out : String := ""

/-- The value a substitution stands for: the environment's, else the value the
file gave earlier, else nothing. -/
def lookup (env : Env) (seen : List (String × Option String)) (name : String) : String :=
  match env.lookup name with
  | some v => v
  | none => ((seen.find? (·.1 == name)).bind (·.2)).getD ""

def parseValue (env : Env) (seen : List (String × Option String)) (input : String) :
    Except Error String :=
  let sub (st : ValueScan) : ValueScan :=
    { st with out := st.out ++ lookup env seen st.name, name := "" }
  let rec go (st : ValueScan) (index : Nat) : List Char → Except Error ValueScan
    | [] => .ok st
    | c :: cs =>
      if st.expectingEnd then
        if c == ' ' || c == '\t' then go st (index + 1) cs
        else if c == '#' then .ok st
        else .error (.lineParse input index)
      else if st.escaped then
        if c == '\\' || c == '\'' || c == '"' || c == '$' || c == ' ' then
          go { st with out := st.out.push c, escaped := false } (index + 1) cs
        else if c == 'n' then go { st with out := st.out.push '\n', escaped := false } (index + 1) cs
        else .error (.lineParse input index)
      else if st.strong then
        if c == '\'' then go { st with strong := false } (index + 1) cs
        else go { st with out := st.out.push c } (index + 1) cs
      else if st.subst != .none then
        if Unicode.isAlphanumeric c then go { st with name := st.name.push c } (index + 1) cs
        else if st.subst == .block then
          if c == '\x7b' && st.name.isEmpty then go { st with subst := .braced } (index + 1) cs
          else
            let st := sub st
            if c == '$' then go { st with subst := .block } (index + 1) cs
            else go { st with subst := .none, out := st.out.push c } (index + 1) cs
        else if c == '\x7d' then go { sub st with subst := .none } (index + 1) cs
        else go { st with name := st.name.push c } (index + 1) cs
      else if c == '$' then go { st with subst := .block } (index + 1) cs
      else if st.weak then
        if c == '"' then go { st with weak := false } (index + 1) cs
        else if c == '\\' then go { st with escaped := true } (index + 1) cs
        else go { st with out := st.out.push c } (index + 1) cs
      else if c == '\'' then go { st with strong := true } (index + 1) cs
      else if c == '"' then go { st with weak := true } (index + 1) cs
      else if c == '\\' then go { st with escaped := true } (index + 1) cs
      else if c == ' ' || c == '\t' then go { st with expectingEnd := true } (index + 1) cs
      else go { st with out := st.out.push c } (index + 1) cs
  match go {} 0 input.toList with
  | .error e => .error e
  | .ok st =>
    if st.subst == .braced || st.strong || st.weak then
      .error (.lineParse input (input.utf8ByteSize - 1))
    else .ok (sub st).out

def isKeyChar (c : Char) : Bool := c.isAlphanum || c == '_' || c == '.'

/-- Read one logical line: nothing for a blank or comment line, else a key and
its value. Positions in errors count bytes from the start of the line. -/
def parseLine (env : Env) (seen : List (String × Option String)) (raw : List Char) :
    Except Error (Option (String × Option String)) :=
  let text := String.ofList raw
  let err (pos : Nat) : Except Error (Option (String × Option String)) :=
    .error (.lineParse text pos)
  let bytes (cs : List Char) : Nat := (String.ofList cs).utf8ByteSize
  let line := Text.dropWhiteEnd raw
  let skip (pos : Nat) (cs : List Char) : Nat × List Char :=
    let ws := cs.takeWhile Text.isWhite
    (pos + bytes ws, cs.drop ws.length)
  let key (pos : Nat) (cs : List Char) : Option (String × Nat × List Char) :=
    match cs with
    | c :: _ =>
      if c.isAlpha || c == '_' then
        let k := cs.takeWhile isKeyChar
        some (String.ofList k, pos + bytes k, cs.drop k.length)
      else none
    | [] => none
  let (pos, line) := skip 0 line
  if line.isEmpty || line.head? == some '#' then .ok none else
  match key pos line with
  | none => err pos
  | some (k, pos, line) =>
    let (pos, line) := skip pos line
    let found : Option (String × Nat × List Char) :=
      match line with
      | '=' :: r => some (k, pos + 1, r)
      | _ =>
        if k == "export" then
          match key pos line with
          | some (k', pos', line') =>
            let (pos', line') := skip pos' line'
            match line' with
            | '=' :: r => some (k', pos' + 1, r)
            | _ => none
          | none => none
        else none
    match found with
    | none =>
      -- the position of whatever stands where `=` was expected
      match line with
      | '=' :: _ => err pos
      | _ =>
        if k == "export" then
          match key pos line with
          | some (_, pos', line') => err (skip pos' line').1
          | none => err pos
        else err pos
    | some (k, pos, line) =>
      let (_, line) := skip pos line
      if line.isEmpty || line.head? == some '#' then .ok (some (k, none))
      else
        match parseValue env seen (String.ofList line) with
        | .error e => .error e
        | .ok v => .ok (some (k, some v))

/-- Load a file's text into an environment: each good line in order, until
the first bad one. -/
def load (env : Env) (text : String) : Env × Option Error :=
  let rec go (env : Env) (seen : List (String × Option String)) :
      List (Except Error (List Char)) → Env × Option Error
    | [] => (env, none)
    | .error e :: _ => (env, some e)
    | .ok line :: rest =>
      match parseLine env seen line with
      | .error e => (env, some e)
      | .ok none => go env seen rest
      | .ok (some (k, v)) =>
        let seen := (k, v) :: seen
        let env := if (env.lookup k).isSome then env else env ++ [(k, v.getD "")]
        go env seen rest
  let cs := match text.toList with
    | '\uFEFF' :: cs => cs
    | cs => cs
  go env [] (logicalLines .complete [] (chunks [] cs))

end Dotenv

end GalaxyProjector
