import CathedralCompute.Codec.Json

/-!
# What a reader of JSON raises besides decode errors

A text that is no document makes the reader raise a decode error, and so does a
hook that refuses what it is given. Two other exceptions come from the
interpreter itself: an integer literal of more than 4300 digits is no `int`, and
containers nested too deeply exhaust the stack. The reader stops at the first
thing it cannot read, so such a literal or bracket is met only where everything
before it was in order.
-/

set_option autoImplicit false

namespace Codec

/-- The exceptions of the interpreter. -/
inductive ReadFault where
  /-- `ValueError`: an integer literal of more than 4300 digits. -/
  | longInteger
  /-- `RecursionError`: a bracket below as many open ones as are allowed. -/
  | deepNesting
deriving DecidableEq

/-- What a number literal raises. -/
def numberFault (t : Text) : Option ReadFault :=
  match scanNumber t with
  | some (literal, false, _) =>
    if 4300 < (literal.filter Text.isDigit).length then some .longInteger else none
  | _ => none

mutual

/-- What the value at the start of the text raises, where `levels` more containers may
be open. The reader is `parseValue`. -/
def valueFault (hooks : Hooks) : ℕ → ℕ → Text → Option ReadFault
  | 0, _, _ => none
  | _ + 1, _, [] => none
  | fuel + 1, levels, c :: rest =>
    if c = quote then none
    else if c = 0x5b then
      if levels = 0 then some .deepNesting
      else if (skipSpace rest).head? = some 0x5d then none
      else itemsFault hooks fuel (levels - 1) (skipSpace rest)
    else if c = 0x7b then
      if levels = 0 then some .deepNesting
      else if (skipSpace rest).head? = some 0x7d then none
      else membersFault hooks fuel (levels - 1) (skipSpace rest)
    else numberFault (c :: rest)

/-- What array items raise. -/
def itemsFault (hooks : Hooks) : ℕ → ℕ → Text → Option ReadFault
  | 0, _, _ => none
  | fuel + 1, levels, t =>
    (valueFault hooks fuel levels t).or
      (match parseValue hooks fuel t with
      | none => none
      | some (_, rest) =>
        match skipSpace rest with
        | [] => none
        | c :: rest => if c = 0x2c then itemsFault hooks fuel levels (skipSpace rest) else none)

/-- What object members raise. -/
def membersFault (hooks : Hooks) : ℕ → ℕ → Text → Option ReadFault
  | 0, _, _ => none
  | _ + 1, _, [] => none
  | fuel + 1, levels, c :: rest =>
    if c = quote then
      match parseChars rest with
      | none => none
      | some (_, rest) =>
        match skipSpace rest with
        | [] => none
        | colon :: rest =>
          if colon = 0x3a then
            (valueFault hooks fuel levels (skipSpace rest)).or
              (match parseValue hooks fuel (skipSpace rest) with
              | none => none
              | some (_, rest) =>
                match skipSpace rest with
                | [] => none
                | c :: rest =>
                  if c = 0x2c then membersFault hooks fuel levels (skipSpace rest) else none)
          else none
    else none

end

/-- What `json.loads` of a text raises besides a decode error. -/
def textFault (hooks : Hooks) (levels : ℕ) (t : Text) : Option ReadFault :=
  valueFault hooks (2 * t.length + 2) levels (skipSpace t)

namespace Json

mutual

/-- How many containers of a document are open at once, at most. -/
def levels : Json → ℕ
  | arr items => itemsLevels items + 1
  | obj members => membersLevels members + 1
  | _ => 0

def itemsLevels : List Json → ℕ
  | [] => 0
  | item :: items => max (levels item) (itemsLevels items)

def membersLevels : List (Text × Json) → ℕ
  | [] => 0
  | (_, value) :: members => max (levels value) (membersLevels members)

end

end Json

/-! ## Literals that are too long -/

end Codec
