/-
Module: Blueprint.Markup.Scan
Purpose: Cutting the characters of a document into events. What a part is shows in its first
  characters; each part says by itself where it ends. A closing tag must name the element opened
  last and not yet closed. The end of the text inside open elements is an ordinary end: it is for
  the reader of the events to say what is missing.
Main exports: Piece, nextPiece, Event.ofPiece, scanFrom, Stream.ofText
-/
import Blueprint.Markup.Event
import Blueprint.Text.Cut

namespace Blueprint.Markup

open Blueprint.Text (Rest cutWhile cutAfter)

/-- A part of the document as it stands in the text, before its role among the open elements is
    known. -/
inductive Piece where
  | text (content : List Char)
  | reference (name : List Char)
  | tag (content : List Char)
  | cdata (content : List Char)
  | comment (content : List Char)
  | instruction (content : List Char)
  | doctype (content : List Char)
deriving DecidableEq, Repr

/-! ### Where each kind of part ends -/

/-- The content of a tag goes up to the first `>` that is not quoted; `quote` is the quotation mark
    that is open, if one is. -/
def cutTag (quote : Option Char) : (cs : List Char) → Except SyntaxFault (List Char × Rest cs)
  | [] =>
    .error (.unclosed (match quote with | none => .tag | some mark => .value mark))
  | c :: cs =>
    if quote.isNone && c == '>' then .ok ([], ⟨cs, by simp⟩)
    else
      let inside :=
        match quote with
        | none => if c == '\'' || c == '"' then some c else none
        | some mark => if c == mark then none else some mark
      match cutTag inside cs with
      | .error fault => .error fault
      | .ok (content, ⟨rest, shorter⟩) =>
        .ok (c :: content, ⟨rest, by simp only [List.length_cons]; omega⟩)

/-- Where in a document type declaration a character stands: before its brackets, inside of them, or
    after them. Before them, quotation marks hide any character. Inside of them, the bracket that closes
    is hidden by comments, instructions and any other markup, which ends at the next `>`; in
    declarations of entities, attribute lists and notations that `>` can be quoted. After the brackets
    nothing hides the end. -/
inductive Zone where
  | before
  | quoted (mark : Char)
  | subset
  | comment
  | instruction
  | markup
  | declaration
  | declarationQuoted (mark : Char)
  | after
deriving DecidableEq, Repr

/-- The declarations between the brackets whose quoted strings may hold any character. -/
def opensQuotingDeclaration (cs : List Char) : Bool :=
  "!ENTITY".toList.isPrefixOf cs || "!ATTLIST".toList.isPrefixOf cs ||
    "!NOTATION".toList.isPrefixOf cs

/-- What follows the `>` that ends a document type declaration. -/
def afterDoctype : Zone → (cs : List Char) → Option (Rest cs)
  | _, [] => none
  | .before, c :: cs =>
    if c == '>' then some ⟨cs, by simp⟩
    else
      widen c (afterDoctype
        (if c == '[' then .subset else if c == '\'' || c == '"' then .quoted c else .before) cs)
  | .quoted mark, c :: cs => widen c (afterDoctype (if c == mark then .before else .quoted mark) cs)
  | .subset, '<' :: '!' :: '-' :: '-' :: cs =>
    widen '<' (widen '!' (widen '-' (widen '-' (afterDoctype .comment cs))))
  | .subset, '<' :: '?' :: cs => widen '<' (widen '?' (afterDoctype .instruction cs))
  | .subset, c :: cs =>
    widen c (afterDoctype
      (if c == ']' then .after
        else if c == '<' then (if opensQuotingDeclaration cs then .declaration else .markup)
        else .subset) cs)
  | .comment, '-' :: '-' :: '>' :: cs =>
    widen '-' (widen '-' (widen '>' (afterDoctype .subset cs)))
  | .comment, c :: cs => widen c (afterDoctype .comment cs)
  | .instruction, '?' :: '>' :: cs => widen '?' (widen '>' (afterDoctype .subset cs))
  | .instruction, c :: cs => widen c (afterDoctype .instruction cs)
  | .markup, c :: cs => widen c (afterDoctype (if c == '>' then .subset else .markup) cs)
  | .declaration, c :: cs =>
    widen c (afterDoctype
      (if c == '>' then .subset
        else if c == '\'' || c == '"' then .declarationQuoted c else .declaration) cs)
  | .declarationQuoted mark, c :: cs =>
    widen c (afterDoctype (if c == mark then .declaration else .declarationQuoted mark) cs)
  | .after, c :: cs =>
    if c == '>' then some ⟨cs, by simp⟩ else widen c (afterDoctype .after cs)
where
  /-- The rest of a list is a rest of every longer one. -/
  widen (c : Char) {cs : List Char} : Option (Rest cs) → Option (Rest (c :: cs))
    | none => none
    | some ⟨rest, shorter⟩ => some ⟨rest, Nat.le_succ_of_le shorter⟩

/-- The text `<?xml` opens the declaration of the document when white space, a question mark or the
    end of the text follows it. -/
def opensDeclaration (cs : List Char) : Bool :=
  "xml".toList.isPrefixOf cs &&
    match cs.drop 3 with
    | [] => true
    | c :: _ => isSpace c || c == '?'

/-- The characters that open a document type declaration after `<!`, in either case. -/
def opensDoctype (cs : List Char) : Bool :=
  (cs.take 7).map Char.toUpper == "DOCTYPE".toList

/-- A part that runs to a delimiter, or the fault of the construct that it belongs to. -/
def cutPiece (construct : Construct) (piece : List Char → Piece) (delimiter : String)
    (cs : List Char) : Except SyntaxFault (Piece × Rest cs) :=
  match cutAfter delimiter.toList cs with
  | none => .error (.unclosed construct)
  | some (content, rest) => .ok (piece content, rest)

/-- A reference goes up to a semicolon that comes before any other reference and any markup. -/
def cutReference (cs : List Char) : Except SyntaxFault (Piece × Rest cs) :=
  match cutWhile (fun c => !(c == ';' || c == '&' || c == '<')) cs with
  | (name, ⟨';' :: rest, shorter⟩) =>
    .ok (.reference name, ⟨rest, Nat.le_of_succ_le shorter⟩)
  | _ => .error .unclosedReference

/-- A processing instruction, or the declaration of the document, given what follows the question mark
    that opens it. That mark cannot be the one that closes it, too. -/
def cutInstruction (cs : List Char) : Except SyntaxFault (Piece × Rest cs) :=
  if cs.head? == some '>' then .error (.unclosed .instruction)
  else
    cutPiece (if opensDeclaration cs then .declaration else .instruction) .instruction "?>" cs

/-- The name of the document type is the first thing in its declaration that is not white space. -/
def cutDoctype (cs : List Char) : Except SyntaxFault (Piece × Rest cs) :=
  match afterDoctype .before cs with
  | none => .error (.unclosed .doctype)
  | some rest =>
    let content := cs.take (cs.length - rest.val.length - 1)
    if content.all isSpace then .error .doctypeWithoutName else .ok (.doctype content, rest)

/-- The part that begins with `<!`, given what follows these characters. -/
def cutDeclared (cs : List Char) : Except SyntaxFault (Piece × Rest cs) :=
  match cs.head? with
  | some '[' =>
    if "[CDATA[".toList.isPrefixOf cs then
      shorten 7 (cutPiece .cdata .cdata "]]>" (cs.drop 7))
    else .error (.unclosed .cdata)
  | some '-' =>
    if "--".toList.isPrefixOf cs then shorten 2 (cutPiece .comment .comment "-->" (cs.drop 2))
    else .error (.unclosed .comment)
  | some 'D' | some 'd' =>
    if opensDoctype cs then shorten 7 (cutDoctype (cs.drop 7)) else .error (.unclosed .doctype)
  | _ => .error .unknownMarkup
where
  /-- A rest of what is left after `n` characters is a rest of the whole. -/
  shorten {cs : List Char} (n : Nat) :
      Except SyntaxFault (Piece × Rest (cs.drop n)) → Except SyntaxFault (Piece × Rest cs)
    | .error fault => .error fault
    | .ok (piece, ⟨rest, shorter⟩) =>
      .ok (piece, ⟨rest, by simp only [List.length_drop] at shorter; omega⟩)

/-- The part of the document that begins with `c`, given what follows that character. -/
def nextPiece (c : Char) (cs : List Char) : Except SyntaxFault (Piece × Rest cs) :=
  if c == '&' then cutReference cs
  else if c == '<' then
    match cs with
    | '!' :: declared =>
      match cutDeclared declared with
      | .error fault => .error fault
      | .ok (piece, ⟨rest, shorter⟩) =>
        .ok (piece, ⟨rest, by simp only [List.length_cons]; omega⟩)
    | '?' :: instruction =>
      match cutInstruction instruction with
      | .error fault => .error fault
      | .ok (piece, ⟨rest, shorter⟩) =>
        .ok (piece, ⟨rest, by simp only [List.length_cons]; omega⟩)
    | content =>
      match cutTag none content with
      | .error fault => .error fault
      | .ok (content, rest) => .ok (.tag content, rest)
  else
    let (content, rest) := cutWhile (fun c => !(c == '<' || c == '&')) cs
    .ok (.text (c :: content), rest)

/-! ### Open elements -/

/-- A closing tag names the innermost open element. -/
def closeElement (opened : List String) (name : String) :
    Except SyntaxFault (Event × List String) :=
  match opened with
  | [] => .error (.unmatchedClose name)
  | innermost :: outer =>
    if innermost = name then .ok (.finish name, outer)
    else .error (.mismatchedClose innermost name)

/-- The name in a closing tag ends before the white space at the end of the tag; a name of nothing but
    white space is taken as it stands. -/
def closingName (content : List Char) : String :=
  if content.all isSpace then String.ofList content
  else String.ofList (content.reverse.dropWhile isSpace).reverse

/-- The event that a piece is, given the names of the open elements, innermost first, and the names
    of the elements that are open after it. -/
def Event.ofPiece (opened : List String) : Piece → Except SyntaxFault (Event × List String)
  | .text content => .ok (.text (String.ofList content), opened)
  | .reference name => .ok (.reference (String.ofList name), opened)
  | .cdata content => .ok (.cdata (String.ofList content), opened)
  | .comment content => .ok (.comment (String.ofList content), opened)
  | .instruction content => .ok (.instruction (String.ofList content), opened)
  | .doctype content => .ok (.doctype (String.ofList content), opened)
  | .tag ('/' :: content) => closeElement opened (closingName content)
  | .tag content =>
    if content.getLast? = some '/' then .ok (.empty (Tag.ofContent content.dropLast), opened)
    else
      let tag := Tag.ofContent content
      .ok (.start tag, tag.name :: opened)

/-- The events of the characters, given the names of the open elements, innermost first. -/
def scanFrom (opened : List String) (cs : List Char) : Stream :=
  match cs with
  | [] => ⟨[], .complete⟩
  | c :: cs =>
    match nextPiece c cs with
    | .error fault => ⟨[], .broken fault⟩
    | .ok (piece, ⟨rest, _⟩) =>
      match Event.ofPiece opened piece with
      | .error fault => ⟨[], .broken fault⟩
      | .ok (event, opened) => (scanFrom opened rest).cons event
termination_by cs.length

/-- The events of a document. A byte order mark at its beginning is no part of it. -/
def Stream.ofText (document : String) : Stream :=
  match document.toList with
  | '\ufeff' :: cs => scanFrom [] cs
  | cs => scanFrom [] cs

end Blueprint.Markup
