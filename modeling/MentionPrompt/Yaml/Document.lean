import MentionPrompt.Yaml.Token

/-!
Documents: the node that a list of tokens makes up.

A text holds at most one document. Where nothing is written stands an empty plain scalar, and an empty
text is one of these. The fuel of the functions bounds the tokens left.
-/

namespace MentionPrompt.Yaml

/-- The value of an item or entry ends before this token. -/
def endsEntry : List Token → Bool
  | .key :: _ => true
  | .value :: _ => true
  | .blockEnd :: _ => true
  | .entry :: _ => true
  | _ => false

mutual

/-- A node. A sequence that is the value of a mapping may stand at the mapping's own indent. -/
def node? : Nat → (inBlock indentless : Bool) → List Token → Option (Node × List Token)
  | 0, _, _, _ => none
  | fuel + 1, inBlock, indentless, tokens =>
    match tokens with
    | .scalar style text :: rest => some (.scalar style text, rest)
    | .openSequence :: rest => do
      let (items, rest) ← flowItems? fuel true rest
      return (.sequence items, rest)
    | .openMapping :: rest => do
      let (entries, rest) ← flowEntries? fuel true rest
      return (.mapping entries, rest)
    | .sequenceStart :: rest =>
      if inBlock then do
        let (items, rest) ← blockItems? fuel rest
        match rest with
        | .blockEnd :: rest => return (.sequence items, rest)
        | _ => none
      else none
    | .mappingStart :: rest =>
      if inBlock then do
        let (entries, rest) ← blockEntries? fuel rest
        return (.mapping entries, rest)
      else none
    | .entry :: rest =>
      if indentless then do
        let (items, rest) ← blockItems? fuel (.entry :: rest)
        return (.sequence items, rest)
      else none
    | _ => none

/-- The items of a block sequence, up to what is no item. -/
def blockItems? : Nat → List Token → Option (List Node × List Token)
  | 0, _ => none
  | fuel + 1, tokens =>
    match tokens with
    | .entry :: rest => do
      let (item, rest) ←
        if endsEntry rest then some (.empty, rest) else node? fuel true false rest
      let (items, rest) ← blockItems? fuel rest
      return (item :: items, rest)
    | _ => some ([], tokens)

/-- A key or a value of a block mapping; it may be left out. -/
def blockPart? : Nat → List Token → Option (Node × List Token)
  | 0, _ => none
  | fuel + 1, tokens =>
    match tokens with
    | .key :: _ => some (.empty, tokens)
    | .value :: _ => some (.empty, tokens)
    | .blockEnd :: _ => some (.empty, tokens)
    | _ => node? fuel true true tokens

/-- The entries of a block mapping, with its end. -/
def blockEntries? : Nat → List Token → Option (List (Node × Node) × List Token)
  | 0, _ => none
  | fuel + 1, tokens =>
    match tokens with
    | .blockEnd :: rest => some ([], rest)
    | .key :: rest => do
      let (key, rest) ← blockPart? fuel rest
      let (value, rest) ← match rest with
        | .value :: rest => blockPart? fuel rest
        | rest => some (.empty, rest)
      let (entries, rest) ← blockEntries? fuel rest
      return ((key, value) :: entries, rest)
    | _ => none

/-- The items of a bracketed sequence, with its end; all but the first follow a comma. An item with a
key mark is a mapping of one entry. -/
def flowItems? : Nat → (first : Bool) → List Token → Option (List Node × List Token)
  | 0, _, _ => none
  | fuel + 1, first, tokens =>
    match tokens with
    | .closeSequence :: rest => some ([], rest)
    | .comma :: rest => if first then none else flowItem? fuel rest
    | rest => if first then flowItem? fuel rest else none

/-- An item of a bracketed sequence, or its end after a comma. -/
def flowItem? : Nat → List Token → Option (List Node × List Token)
  | 0, _ => none
  | fuel + 1, tokens =>
    match tokens with
    | .closeSequence :: rest => some ([], rest)
    | .key :: rest => do
      let (entry, rest) ← flowEntry? fuel rest
      let (items, rest) ← flowItems? fuel false rest
      return (.mapping [entry] :: items, rest)
    | rest => do
      let (item, rest) ← node? fuel false false rest
      let (items, rest) ← flowItems? fuel false rest
      return (item :: items, rest)

/-- A key or a value in brackets; it may be left out. -/
def flowPart? : Nat → List Token → Option (Node × List Token)
  | 0, _ => none
  | fuel + 1, tokens =>
    match tokens with
    | .value :: _ => some (.empty, tokens)
    | .comma :: _ => some (.empty, tokens)
    | .closeSequence :: _ => some (.empty, tokens)
    | .closeMapping :: _ => some (.empty, tokens)
    | _ => node? fuel false false tokens

/-- An entry in brackets, after its key mark. -/
def flowEntry? : Nat → List Token → Option ((Node × Node) × List Token)
  | 0, _ => none
  | fuel + 1, tokens => do
    let (key, rest) ← flowPart? fuel tokens
    match rest with
    | .value :: rest => do
      let (value, rest) ← flowPart? fuel rest
      return ((key, value), rest)
    | rest => return ((key, .empty), rest)

/-- The entries of a bracketed mapping, with its end; all but the first follow a comma. -/
def flowEntries? : Nat → (first : Bool) → List Token → Option (List (Node × Node) × List Token)
  | 0, _, _ => none
  | fuel + 1, first, tokens =>
    match tokens with
    | .closeMapping :: rest => some ([], rest)
    | .comma :: rest => if first then none else flowMember? fuel rest
    | rest => if first then flowMember? fuel rest else none

/-- An entry of a bracketed mapping, or its end after a comma. A key may stand alone. -/
def flowMember? : Nat → List Token → Option (List (Node × Node) × List Token)
  | 0, _ => none
  | fuel + 1, tokens =>
    match tokens with
    | .closeMapping :: rest => some ([], rest)
    | .key :: rest => do
      let (entry, rest) ← flowEntry? fuel rest
      let (entries, rest) ← flowEntries? fuel false rest
      return (entry :: entries, rest)
    | rest => do
      let (key, rest) ← node? fuel false false rest
      let (entries, rest) ← flowEntries? fuel false rest
      return ((key, .empty) :: entries, rest)

end

/-- The root node at the start of the tokens; it may be left out. -/
def root? (tokens : List Token) : Option (Node × List Token) :=
  let fuel := 3 * tokens.length + 3
  match tokens with
  | [] => some (.empty, [])
  | .documentStart :: rest =>
    match rest with
    | [] => some (.empty, [])
    | .documentStart :: _ => some (.empty, rest)
    | .documentEnd :: _ => some (.empty, rest)
    | _ => node? fuel true false rest
  | _ => node? fuel true false tokens

/-- The root node of the document that a text holds. -/
def read? (text : String) : Option Node := do
  let (node, rest) ← root? (← tokens? text)
  if rest.all (· == .documentEnd) then return node else none

end MentionPrompt.Yaml
