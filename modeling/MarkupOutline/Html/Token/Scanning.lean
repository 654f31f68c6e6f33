import MarkupOutline.Html.Token.Basic

/-!
# Scanning of tokens

How the first token is taken off a text, in each content model. Every text can be scanned: what is
not the beginning of anything is character data, and what is left unfinished at the end of the text
is dropped or ends there. `Token.next` puts the cases together.
-/

namespace MarkupOutline.Html

namespace Token

/-! ## Attributes -/

/-- Whether a character goes on with the name of an attribute. -/
def inAttributeName (c : Char) : Bool := !(isSpace c || c = '/' || c = '>' || c = '=')

/-- A name as it counts: in lower case and without null characters. -/
def nameOf (s : List Char) : String := String.ofList (s.map fun c => withoutNull c.toLower)

/-- An attribute value as it counts. -/
def valueOf (s : List Char) : String := String.ofList ((Reference.decode true s).map withoutNull)

/-- The value of an attribute whose name has been read, empty if none is given. -/
def scanValue (s : List Char) : List Char × List Char :=
  match s.dropWhile isSpace with
  | '=' :: rest =>
    match rest.dropWhile isSpace with
    | '"' :: rest => (rest.takeWhile (· ≠ '"'), (rest.dropWhile (· ≠ '"')).drop 1)
    | '\'' :: rest => (rest.takeWhile (· ≠ '\''), (rest.dropWhile (· ≠ '\'')).drop 1)
    | rest => rest.span fun c => !(isSpace c || c = '>')
  | rest => ([], rest)

/-- The attributes of a tag, whether it is self-closing, and what follows it; none if the text ends
inside the tag. Every round reads a character, so the length of the text bounds their number. -/
def scanAttributes : Nat → List Char → Option (List (String × String) × Bool × List Char)
  | 0, _ => none
  | bound + 1, s =>
    match s.dropWhile isSpace with
    | [] => none
    | '>' :: rest => some ([], false, rest)
    | '/' :: '>' :: rest => some ([], true, rest)
    -- Only a slash right in front of the bracket closes the tag; any other is passed over.
    | '/' :: rest => scanAttributes bound rest
    -- The first character belongs to the name whatever it is, an equals sign included.
    | c :: rest =>
      let (more, rest) := rest.span inAttributeName
      let (value, rest) := scanValue rest
      (scanAttributes bound rest).map fun (attributes, closed, rest) =>
        ((nameOf (c :: more), valueOf value) :: attributes, closed, rest)

/-- The attributes without those whose name has occurred before. -/
def firstOfEach (attributes : List (String × String)) : List (String × String) :=
  attributes.foldl (fun kept a => if kept.any (·.1 = a.1) then kept else kept ++ [a]) []

/-- What follows the name of a tag. -/
def scanTagRest (s : List Char) : Option (List (String × String) × Bool × List Char) :=
  (scanAttributes (s.length + 1) s).map fun (attributes, closed, rest) =>
    (firstOfEach attributes, closed, rest)

/-- Whether a character goes on with the name of a tag. -/
def inTagName (c : Char) : Bool := !(isSpace c || c = '/' || c = '>')

/-! ## What begins with an angle bracket

These functions are given the text behind the bracket and return the token, none if there is
nothing to report, with what follows it. A tag that is not finished when the text ends is
dropped. -/

/-- What a scanning function finds. -/
abbrev Found := Option Token × List Char

/-- A start tag. -/
def scanStartTag (s : List Char) : Found :=
  let (name, rest) := s.span inTagName
  match scanTagRest rest with
  | none => (none, [])
  | some (attributes, closed, rest) => (some (startTag ⟨nameOf name, attributes, closed⟩), rest)

/-- An end tag, behind its slash. -/
def scanEndTag (s : List Char) : Found :=
  let (name, rest) := s.span inTagName
  match scanTagRest rest with
  | none => (none, [])
  | some (_, _, rest) => (some (endTag (nameOf name)), rest)

/-- Something that ends at the next closing bracket and is taken for a comment. -/
def scanBogusComment (s : List Char) : Found :=
  let (data, rest) := s.span (· ≠ '>')
  (some (comment (String.ofList (data.map withoutNull))), rest.drop 1)

/-- The data of a comment up to its end. A comment that is not finished when the text ends loses
the beginning of an end mark. -/
def commentData : List Char → List Char × List Char
  | [] => ([], [])
  | '-' :: '-' :: '>' :: rest => ([], rest)
  | '-' :: '-' :: '!' :: '>' :: rest => ([], rest)
  | ['-', '-', '!'] => ([], [])
  | ['-', '-'] => ([], [])
  | ['-'] => ([], [])
  | c :: rest =>
    let (data, rest) := commentData rest
    (withoutNull c :: data, rest)

/-- A comment, behind its opening mark. -/
def scanComment (s : List Char) : Found :=
  match s with
  | '>' :: rest => (some (comment ""), rest)
  | '-' :: '>' :: rest => (some (comment ""), rest)
  | _ =>
    let (data, rest) := commentData s
    (some (comment (String.ofList data)), rest)

/-- The characters of a marked section up to its end. -/
def sectionData : List Char → List Char × List Char
  | [] => ([], [])
  | ']' :: ']' :: '>' :: rest => ([], rest)
  | c :: rest =>
    let (data, rest) := sectionData rest
    (c :: data, rest)

/-- The text behind a word, none if it does not begin with the word. -/
def after? (word : String) (s : List Char) : Option (List Char) :=
  if word.toList.isPrefixOf s then some (s.drop word.length) else none

/-- The text behind a word, in which letter case does not matter. -/
def afterIgnoringCase? (word : String) (s : List Char) : Option (List Char) :=
  if word.toList.isPrefixOf (s.map Char.toLower) then some (s.drop word.length) else none

/-- A declaration, behind its exclamation mark. Marked sections are recognised in foreign content
only. -/
def scanDeclaration (foreign : Bool) (s : List Char) : Found :=
  match after? "--" s with
  | some rest => scanComment rest
  | none =>
    match afterIgnoringCase? "doctype" (s.take 7) with
    | some _ => (some doctype, (s.dropWhile (· ≠ '>')).drop 1)
    | none =>
      match if foreign then after? "[CDATA[" s else none with
      | some rest =>
        let (data, rest) := sectionData rest
        (if data.isEmpty then none else some (text data), rest)
      | none => scanBogusComment s

/-- Whatever an angle bracket begins. A bracket that begins nothing is character data. -/
def scanMarkup (foreign : Bool) (s : List Char) : Found :=
  match s with
  | '!' :: rest => scanDeclaration foreign rest
  | '/' :: '>' :: rest => (none, rest)
  | '/' :: c :: rest =>
    if c.isAlpha then scanEndTag (c :: rest) else scanBogusComment (c :: rest)
  | '/' :: [] => (some (text ['<', '/']), [])
  | '?' :: _ => scanBogusComment s
  | c :: _ => if c.isAlpha then scanStartTag s else (some (text ['<']), s)
  | [] => (some (text ['<']), [])

/-! ## Text with restricted markup -/

/-- What follows the name in the end tag of the named element, if the text begins with that tag. -/
def closing? (element : String) (s : List Char) : Option (List Char) :=
  match after? "</" s with
  | none => none
  | some named =>
    match afterIgnoringCase? element (named.take element.length) with
    | none => none
    | some _ =>
      let rest := named.drop element.length
      match rest with
      -- A longer name is another name, and at the end of the text the tag is not finished.
      | c :: _ => if inTagName c then none else some rest
      | [] => none

/-- Where a script stands with respect to a comment inside of it. -/
inductive ScriptPart where
  /-- Outside of any comment. -/
  | plain
  /-- Inside a comment. -/
  | commented
  /-- Inside a script inside a comment. -/
  | nested
  deriving DecidableEq, Repr

/-- Whether the name of a script tag stands at the start of a text, with an end behind it. -/
def opensScript (s : List Char) : Bool :=
  (afterIgnoringCase? "<script" (s.take 7)).isSome &&
    ((s.drop 7).head?.elim false fun c => !inTagName c)

/-- The part of a script in which the text behind the first character of `s` stands, where `s`
itself stands in `part`. -/
def ScriptPart.step (part : ScriptPart) (s : List Char) : ScriptPart :=
  match part with
  | plain => if (after? "<!--" s).isSome then commented else plain
  | commented =>
    if (after? "-->" s).isSome then plain else if opensScript s then nested else commented
  | nested =>
    if (after? "-->" s).isSome then plain
    else if (closing? "script" s).isSome then commented
    else nested

/-- The characters of a script up to its end tag. -/
def scriptData : ScriptPart → List Char → List Char × List Char
  | _, [] => ([], [])
  | part, c :: rest =>
    if part ≠ .nested && (closing? "script" (c :: rest)).isSome then ([], c :: rest)
    else
      let (data, remaining) := scriptData (part.step (c :: rest)) rest
      (c :: data, remaining)

/-- The end tag that a text begins with, if it is that of the named element, and otherwise its
first character with all that follow up to the next angle bracket. -/
def nextUpTo (element : String) (read : List Char → List Char) (c : Char) (s : List Char) : Found :=
  match closing? element (c :: s) with
  | some _ => scanEndTag (s.drop 1)
  | none =>
    let (run, rest) := s.span (· ≠ '<')
    (some (text ((read (c :: run)).map withoutNull)), rest)

/-- The first token of a text that is not empty, none where nothing is to be reported, and what
follows it. `foreign` says that marked sections are recognised. -/
def next (model : ContentModel) (foreign : Bool) (s : List Char) : Found :=
  match s with
  | [] => (none, [])
  | c :: rest =>
    match model with
    | .data =>
      if c = '<' then scanMarkup foreign rest
      else
        let (run, rest) := rest.span (· ≠ '<')
        (some (text (Reference.decode false (c :: run))), rest)
    | .escapableText element => nextUpTo element (Reference.decode false) c rest
    | .rawText element => nextUpTo element id c rest
    | .script =>
      match closing? "script" (c :: rest) with
      | some _ => scanEndTag (rest.drop 1)
      | none =>
        let (data, rest) := scriptData .plain (c :: rest)
        (some (text (data.map withoutNull)), rest)
    | .plain => (some (text (s.map withoutNull)), [])

end Token

end MarkupOutline.Html
