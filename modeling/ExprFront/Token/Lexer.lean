import ExprFront.Token.Kind
import ExprFront.Token.Error
import ExprFront.Scan.Run

/-!
# From scanned pieces to tokens

`tokenize` scans a text and turns its pieces into tokens, stopping at the first fault:

* trivia (blanks, comments, line continuations, line breaks inside brackets or fields) is
  dropped;
* an identifier is looked up among the keywords;
* a string or f-string start gets its delimiter back from its opening text;
* an f-string start and end also open and close the lexer's own stack of delimiters, which
  supplies the error context, and the end records the text folded into it;
* every token gets the line and column of its first byte.

A fault becomes a `LexError` at the scanner's report site, or at the piece itself if the
scanner gave none.
-/

namespace ExprFront

/-- The state of turning pieces into tokens. -/
structure TokenBuilder where
  /-- The text. -/
  src : Source
  /-- Lines and columns of the text. -/
  index : LineIndex
  /-- The f-strings opened and not yet closed. -/
  literals : DelimiterStack Unit

namespace TokenBuilder

/-- The innermost open f-string and the number open, or the top level. -/
def context (tb : TokenBuilder) : LexErrorContext :=
  match tb.literals.currentStart? with
  | some start => .insideFString start tb.literals.depth
  | none => .topLevel

/-- The error for a piece that is no token. -/
def invalidAt (tb : TokenBuilder) (span : Span) : LexError :=
  ⟨span, LexErrorKind.ofFault .invalidCharacter span tb.src, tb.context⟩

/-- The delimiter that a piece's text opens with. -/
def delimiterAt (tb : TokenBuilder) (span : Span) : Except LexError Delimiter :=
  match Delimiter.ofOpener? (tb.src.slice span).toUTF8.toList with
  | some d => .ok d
  | none => .error (tb.invalidAt span)

/-- Closes the innermost f-string at an end piece, whose last bytes are its closing quotes. -/
def popFString (tb : TokenBuilder) (span : Span) : Except LexError (TokenKind × TokenBuilder) :=
  let bytes := (tb.src.slice span).toUTF8.toList
  match bytes.getLast? >>= Quote.ofByte? with
  | none => .error (tb.invalidAt span)
  | some q =>
    let size := if bytes.drop (bytes.length - 3) == List.replicate 3 q.byte then QuoteSize.triple
      else QuoteSize.single
    match tb.literals.close q size with
    | .ok (d, rest) =>
      .ok (.fstringEnd ⟨span.start, span.stop - d.closeLength⟩, { tb with literals := rest })
    | .error e => .error ⟨span, .delimiterMismatch e, tb.context⟩

/-- The kind of the token a piece becomes, if it becomes one. -/
def classify (tb : TokenBuilder) (tag : RawTag) (span : Span) :
    Except LexError (Option TokenKind × TokenBuilder) :=
  if tag.isTrivia then .ok (none, tb)
  else
    match tag with
    | .ident =>
      let word := tb.src.slice span
      .ok (some ((Keyword.ofWord? word).elim .name .keyword), tb)
    | .int => .ok (some .int, tb)
    | .float => .ok (some .float, tb)
    | .imaginary => .ok (some .imaginary, tb)
    | .string => do
      let d ← tb.delimiterAt span
      pure (some (.string d), tb)
    | .fstringStart => do
      let d ← tb.delimiterAt span
      pure (some (.fstringStart d), { tb with literals := tb.literals.push d span.start () })
    | .fstringMiddle => .ok (some .fstringMiddle, tb)
    | .fstringEnd => do
      let (k, tb) ← tb.popFString span
      pure (some k, tb)
    | .newline => .ok (some .newline, tb)
    | .eof => .ok (some .eof, tb)
    | .punct p => .ok (some (.punct p), tb)
    | _ => .error (tb.invalidAt span)

/-- Turns the pieces from offset `offset` on into tokens appended to `acc`, up to the end;
`site` is the scanner's report site for a fault. -/
def build (tb : TokenBuilder) (site : Option Span) (offset : Nat) (acc : Array Token) :
    List RawToken → Except LexError (Array Token)
  | [] => .ok acc
  | t :: rest =>
    let span : Span := ⟨offset, offset + t.len⟩
    match t.tag with
    | .fault f =>
      let place := site.getD span
      .error ⟨place, LexErrorKind.ofFault f place tb.src, tb.context⟩
    | tag =>
      match tb.classify tag span with
      | .error e => .error e
      | .ok (kind?, tb') =>
        let acc := match kind? with
          | some k => acc.push ⟨k, span, tb.index.lineCol span.start⟩
          | none => acc
        if tag == .eof then .ok acc else tb'.build site span.stop acc rest

end TokenBuilder

/-- The tokens of a text under the given nesting limits, or the first lexical error. A text
longer than `maxSourceSize` bytes is refused before any scanning. -/
def tokenize (text : String) (limits : ScanLimits) : Except LexError (Array Token) :=
  if text.utf8ByteSize > maxSourceSize then .error ⟨⟨0, 0⟩, .sourceTooLarge, .topLevel⟩
  else
    let src := Source.ofString text
    let (pieces, last) := scanText src limits
    let tb : TokenBuilder := ⟨src, LineIndex.build src, {}⟩
    tb.build last.errorSite src.scanStart #[] pieces

namespace LexError

/-- The line and column where a lexical error of a text is reported. -/
def position (e : LexError) (text : String) : LineCol :=
  (LineIndex.build (Source.ofString text)).lineCol e.span.start

end LexError

end ExprFront
