import CallSchema.Yaml.Token

/-!
The events of a text's first document: its nodes in order, with the beginning and the end of every
collection. What tokens leave out, such as a value after a colon, becomes an empty plain scalar.
-/
namespace CallSchema.Yaml

/-- What an event says. -/
inductive EventKind where
  | documentStart
  | documentEnd
  | streamEnd
  | alias (name : String)
  | scalar (anchor : Option String) (tag : Option Tag) (style : ScalarStyle) (text : String)
  | sequenceStart (anchor : Option String) (tag : Option Tag)
  | sequenceEnd
  | mappingStart (anchor : Option String) (tag : Option Tag)
  | mappingEnd
  deriving DecidableEq

/-- An event and the place where its node starts. -/
structure Event where
  kind : EventKind
  mark : Mark
  deriving DecidableEq

/-- What may come next. -/
inductive Expectation where
  | documentStart (bare : Bool)
  | documentContent
  | documentEnd
  | blockNode
  | blockSequenceFirst
  | blockSequenceEntry
  | indentlessSequenceEntry
  | blockMappingFirst
  | blockMappingKey
  | blockMappingValue
  | flowSequenceFirst
  | flowSequenceEntry
  | pairKey
  | pairValue
  | pairEnd
  | flowMappingFirst
  | flowMappingKey
  | flowMappingValue
  | flowMappingNoValue
  | nothing
  deriving DecidableEq

/-- How far tokens are read: those that are left, what may come next, what may come once the
current collections are complete, innermost first, and what tag handles stand for. -/
structure EventReader where
  tokens : List Token
  expected : Expectation
  outer : List Expectation
  handles : List (String × List UInt8)

namespace EventReader

/-- Nothing is read yet. -/
def ofTokens (tokens : List Token) : EventReader := ⟨tokens, .documentStart true, [], []⟩

/-- The node is complete; what encloses it goes on. -/
def leave (reader : EventReader) (tokens : List Token) : EventReader :=
  match reader.outer with
  | [] => { reader with tokens, expected := .nothing }
  | expected :: outer => { reader with tokens, expected, outer }

/-- The same, some tokens on, with something else to expect. -/
def expect (reader : EventReader) (expected : Expectation) (tokens : List Token) : EventReader :=
  { reader with tokens, expected }

/-- A node follows, and after it something else. -/
def enter (reader : EventReader) (next : Expectation) (tokens : List Token) : EventReader :=
  { reader with tokens, outer := next :: reader.outer }

/-- A scalar that is left out. -/
def omitted (mark : Mark) : Event := ⟨.scalar none none .plain "", mark⟩

/-- The anchor and the tag before a node, in either order. -/
def properties (tokens : List Token) :
    Option String × Option (String × List UInt8) × List Token :=
  match tokens with
  | ⟨.anchor name, _, _⟩ :: ⟨.tag handle suffix, _, _⟩ :: rest =>
    (some name, some (handle, suffix), rest)
  | ⟨.tag handle suffix, _, _⟩ :: ⟨.anchor name, _, _⟩ :: rest =>
    (some name, some (handle, suffix), rest)
  | ⟨.anchor name, _, _⟩ :: rest => (some name, none, rest)
  | ⟨.tag handle suffix, _, _⟩ :: rest => (none, some (handle, suffix), rest)
  | rest => (none, none, rest)

/-- The tag that handle and suffix stand for; the handle must be known. -/
def tagOf? (handles : List (String × List UInt8)) :
    Option (String × List UInt8) → Option (Option Tag)
  | none => some none
  | some (handle, suffix) =>
    if handle.isEmpty then some (some ⟨suffix⟩)
    else (handles.lookup handle).map fun lead => some ⟨lead ++ suffix⟩

/-- Reads the start of a node, or all of it if it is an alias or a scalar. Block collections stand
outside brackets only; as the value of a key, the entries of a sequence need no indentation. -/
def node? (reader : EventReader) (block indentless : Bool) : Option (Event × EventReader) :=
  match reader.tokens with
  | [] => none
  | ⟨.alias name, start, _⟩ :: rest => some (⟨.alias name, start⟩, reader.leave rest)
  | first :: _ =>
    let (anchor, written, tokens) := properties reader.tokens
    match tokens, tagOf? reader.handles written with
    | token :: rest, some tag =>
      let event (kind : EventKind) : Event := ⟨kind, first.start⟩
      match token.kind with
      | .scalar style text => some (event (.scalar anchor tag style text), reader.leave rest)
      | .flowSequenceStart =>
        some (event (.sequenceStart anchor tag), reader.expect .flowSequenceFirst tokens)
      | .flowMappingStart =>
        some (event (.mappingStart anchor tag), reader.expect .flowMappingFirst tokens)
      | kind =>
        if indentless && kind == .blockEntry then
          some (event (.sequenceStart anchor tag), reader.expect .indentlessSequenceEntry tokens)
        else if block && kind == .blockSequenceStart then
          some (event (.sequenceStart anchor tag), reader.expect .blockSequenceFirst tokens)
        else if block && kind == .blockMappingStart then
          some (event (.mappingStart anchor tag), reader.expect .blockMappingFirst tokens)
        else if anchor.isSome || tag.isSome then
          some (event (.scalar anchor tag .plain ""), reader.leave tokens)
        else none
    | _, _ => none

/-- What the two handles that need no directive stand for. -/
def commonHandles : List (String × List UInt8) :=
  [("!", Tag.octetsOf "!"), ("!!", Tag.octetsOf Tag.commonLead)]

/-- Reads the directives before a document: at most one version, which must be 1.1 or 1.2, and
each handle at most once. -/
def directives? (versioned : Bool) (handles : List (String × List UInt8)) :
    List Token → Option (List (String × List UInt8) × List Token)
  | ⟨.version major minor, _, _⟩ :: rest =>
    if versioned || major != 1 || (minor != 1 && minor != 2) then none
    else directives? true handles rest
  | ⟨.handle name octets, _, _⟩ :: rest =>
    if (handles.lookup name).isSome then none
    else directives? versioned (handles ++ [(name, octets)]) rest
  | tokens => some (handles ++ commonHandles, tokens)

/-- Reads the start of a document or the end of the stream. Only the first document may do without
a marker. -/
def documentStart? (reader : EventReader) (bare : Bool) : Option (Event × EventReader) :=
  let tokens :=
    if bare then reader.tokens
    else reader.tokens.dropWhile fun token => token.kind == .documentEnd
  match tokens with
  | [] => none
  | token :: rest =>
    let marked :=
      match token.kind with
      | .version .. | .handle .. | .documentStart => true
      | _ => !bare
    if token.kind == .streamEnd then
      some (⟨.streamEnd, token.start⟩, reader.expect .nothing rest)
    else if marked then
      match directives? false [] tokens with
      | some (handles, ⟨.documentStart, _, _⟩ :: rest) =>
        some (⟨.documentStart, token.start⟩,
          ({ reader with handles }.enter .documentEnd rest).expect .documentContent rest)
      | _ => none
    else
      some (⟨.documentStart, token.start⟩,
        ({ reader with handles := commonHandles }.enter .documentEnd tokens).expect .blockNode
          tokens)

/-- Reads an entry of a block sequence, or its end. -/
def blockEntry? (reader : EventReader) (tokens : List Token) : Option (Event × EventReader) :=
  match tokens with
  | ⟨.blockEntry, _, stop⟩ :: rest =>
    match rest with
    | [] => none
    | next :: _ =>
      if next.kind == .blockEntry || next.kind == .blockEnd then
        some (omitted stop, reader.expect .blockSequenceEntry rest)
      else (reader.enter .blockSequenceEntry rest).node? true false
  | ⟨.blockEnd, start, _⟩ :: rest => some (⟨.sequenceEnd, start⟩, reader.leave rest)
  | _ => none

/-- Reads an entry of a sequence without indentation, or its end. -/
def indentlessEntry? (reader : EventReader) : Option (Event × EventReader) :=
  match reader.tokens with
  | ⟨.blockEntry, _, stop⟩ :: rest =>
    match rest with
    | [] => none
    | next :: _ =>
      if next.kind == .blockEntry || next.kind == .key || next.kind == .value ||
          next.kind == .blockEnd then
        some (omitted stop, reader.expect .indentlessSequenceEntry rest)
      else (reader.enter .indentlessSequenceEntry rest).node? true false
  | token :: rest => some (⟨.sequenceEnd, token.start⟩, reader.leave (token :: rest))
  | [] => none

/-- Reads a key of a block mapping, or its end. -/
def blockKey? (reader : EventReader) (tokens : List Token) : Option (Event × EventReader) :=
  match tokens with
  | ⟨.key, _, stop⟩ :: rest =>
    match rest with
    | [] => none
    | next :: _ =>
      if next.kind == .key || next.kind == .value || next.kind == .blockEnd then
        some (omitted stop, reader.expect .blockMappingValue rest)
      else (reader.enter .blockMappingValue rest).node? true true
  | ⟨.blockEnd, start, _⟩ :: rest => some (⟨.mappingEnd, start⟩, reader.leave rest)
  | _ => none

/-- Reads the value after a key of a block mapping. -/
def blockValue? (reader : EventReader) : Option (Event × EventReader) :=
  match reader.tokens with
  | ⟨.value, _, stop⟩ :: rest =>
    match rest with
    | [] => none
    | next :: _ =>
      if next.kind == .key || next.kind == .value || next.kind == .blockEnd then
        some (omitted stop, reader.expect .blockMappingKey rest)
      else (reader.enter .blockMappingKey rest).node? true true
  | token :: rest => some (omitted token.start, reader.expect .blockMappingKey (token :: rest))
  | [] => none

/-- The tokens of the next entry between brackets; a comma separates it from an earlier one. -/
def nextEntry? (first : Bool) (tokens : List Token) : Option (List Token) :=
  if first then some tokens
  else
    match tokens with
    | ⟨.flowEntry, _, _⟩ :: rest => some rest
    | _ => none

/-- Reads an entry of a sequence in brackets, or its end. A key among the entries is a mapping of
that key alone. -/
def flowEntry? (reader : EventReader) (first : Bool) (tokens : List Token) :
    Option (Event × EventReader) :=
  let close (token : Token) (rest : List Token) : Option (Event × EventReader) :=
    some (⟨.sequenceEnd, token.start⟩, reader.leave rest)
  match tokens with
  | [] => none
  | token :: rest =>
    if token.kind == .flowSequenceEnd then close token rest
    else
      match nextEntry? first tokens with
      | none | some [] => none
      | some (token :: rest) =>
        if token.kind == .key then
          some (⟨.mappingStart none none, token.start⟩, reader.expect .pairKey rest)
        else if token.kind == .flowSequenceEnd then close token rest
        else (reader.enter .flowSequenceEntry (token :: rest)).node? false false

/-- Reads the key of a mapping of one key. -/
def pairKey? (reader : EventReader) : Option (Event × EventReader) :=
  match reader.tokens with
  | [] => none
  | token :: rest =>
    if token.kind == .value || token.kind == .flowEntry || token.kind == .flowSequenceEnd then
      some (omitted token.stop, reader.expect .pairValue rest)
    else (reader.enter .pairValue (token :: rest)).node? false false

/-- Reads the value of a mapping of one key. -/
def pairValue? (reader : EventReader) : Option (Event × EventReader) :=
  match reader.tokens with
  | ⟨.value, _, _⟩ :: rest =>
    match rest with
    | [] => none
    | next :: _ =>
      if next.kind == .flowEntry || next.kind == .flowSequenceEnd then
        some (omitted next.start, reader.expect .pairEnd rest)
      else (reader.enter .pairEnd rest).node? false false
  | token :: rest => some (omitted token.start, reader.expect .pairEnd (token :: rest))
  | [] => none

/-- Reads a key of a mapping in braces, or its end. -/
def flowKey? (reader : EventReader) (first : Bool) (tokens : List Token) :
    Option (Event × EventReader) :=
  let close (token : Token) (rest : List Token) : Option (Event × EventReader) :=
    some (⟨.mappingEnd, token.start⟩, reader.leave rest)
  match tokens with
  | [] => none
  | token :: rest =>
    if token.kind == .flowMappingEnd then close token rest
    else
      match nextEntry? first tokens with
      | none | some [] => none
      | some (token :: rest) =>
        if token.kind == .key then
          match rest with
          | [] => none
          | next :: _ =>
            if next.kind == .value || next.kind == .flowEntry || next.kind == .flowMappingEnd then
              some (omitted next.start, reader.expect .flowMappingValue rest)
            else (reader.enter .flowMappingValue rest).node? false false
        else if token.kind == .flowMappingEnd then close token rest
        else (reader.enter .flowMappingNoValue (token :: rest)).node? false false

/-- Reads the value after a key of a mapping in braces. -/
def flowValue? (reader : EventReader) : Option (Event × EventReader) :=
  match reader.tokens with
  | ⟨.value, _, _⟩ :: rest =>
    match rest with
    | [] => none
    | next :: _ =>
      if next.kind == .flowEntry || next.kind == .flowMappingEnd then
        some (omitted next.start, reader.expect .flowMappingKey rest)
      else (reader.enter .flowMappingKey rest).node? false false
  | token :: rest => some (omitted token.start, reader.expect .flowMappingKey (token :: rest))
  | [] => none

/-- Reads the next event, unless the tokens end or break a rule. -/
def next? (reader : EventReader) : Option (Event × EventReader) :=
  match reader.expected with
  | .documentStart bare => reader.documentStart? bare
  | .documentContent =>
    match reader.tokens with
    | [] => none
    | token :: _ =>
      match token.kind with
      | .version .. | .handle .. | .documentStart | .documentEnd | .streamEnd =>
        some (omitted token.start, reader.leave reader.tokens)
      | _ => reader.node? true false
  | .documentEnd =>
    match reader.tokens with
    | [] => none
    | token :: rest =>
      let tokens := if token.kind == .documentEnd then rest else token :: rest
      some (⟨.documentEnd, token.start⟩, reader.expect (.documentStart false) tokens)
  | .blockNode => reader.node? true false
  | .blockSequenceFirst => reader.blockEntry? (reader.tokens.drop 1)
  | .blockSequenceEntry => reader.blockEntry? reader.tokens
  | .indentlessSequenceEntry => reader.indentlessEntry?
  | .blockMappingFirst => reader.blockKey? (reader.tokens.drop 1)
  | .blockMappingKey => reader.blockKey? reader.tokens
  | .blockMappingValue => reader.blockValue?
  | .flowSequenceFirst => reader.flowEntry? true (reader.tokens.drop 1)
  | .flowSequenceEntry => reader.flowEntry? false reader.tokens
  | .pairKey => reader.pairKey?
  | .pairValue => reader.pairValue?
  | .pairEnd =>
    match reader.tokens with
    | [] => none
    | token :: _ =>
      some (⟨.mappingEnd, token.start⟩, reader.expect .flowSequenceEntry reader.tokens)
  | .flowMappingFirst => reader.flowKey? true (reader.tokens.drop 1)
  | .flowMappingKey => reader.flowKey? false reader.tokens
  | .flowMappingValue => reader.flowValue?
  | .flowMappingNoValue =>
    match reader.tokens with
    | [] => none
    | token :: _ => some (omitted token.start, reader.expect .flowMappingKey reader.tokens)
  | .nothing => none

end EventReader

/-- The events of a text's first document between its start and its end, whether its end was
reached, and whether the text ends after it. -/
structure DocumentEvents where
  events : List Event
  complete : Bool
  alone : Bool

/-- Collects the events of the first document. A token gives rise to fewer than four events, so
the number of tokens bounds the steps. -/
def collectEvents : Nat → EventReader → List Event → DocumentEvents
  | 0, _, events => ⟨events.reverse, false, false⟩
  | steps + 1, reader, events =>
    match reader.next? with
    | none => ⟨events.reverse, false, false⟩
    | some (event, reader) =>
      match event.kind with
      | .documentStart => collectEvents steps reader events
      | .streamEnd => ⟨events.reverse, true, true⟩
      | .documentEnd =>
        let alone :=
          match reader.next? with
          | some (⟨.streamEnd, _⟩, _) => true
          | _ => false
        ⟨events.reverse, true, alone⟩
      | _ => collectEvents steps reader (event :: events)

/-- The events of a text's first document. -/
def documentEvents (text : List Char) : DocumentEvents :=
  let tokens := tokens text
  collectEvents (4 * tokens.length + 8) (EventReader.ofTokens tokens) []

end CallSchema.Yaml
