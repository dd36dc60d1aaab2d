import Pushdown.Sql.Reading

/-!
# Row patterns

A pattern says which rows in a row make a match, in the manner of a regular expression over names:
names one after the other, alternatives between bars, groups in parentheses and counts behind any of
these. Nothing later looks into a pattern, so the result is its canonical text: one space between
neighbours, and a space on the inside of each parenthesis of a group.
-/

namespace Pushdown.Sql

open Parse

/-- How often the pattern before it may repeat, if that is ahead. -/
def patternCount : Parse (Option String) := do
  let closed (inner : String) : Parse (Option String) := do
    expectSymbol "\x7d"
    return some ("\x7b" ++ inner ++ "\x7d")
  match ← ahead with
  | .symbol "*" :: rest => do
    set rest
    return some "*"
  | .symbol "+" :: rest => do
    set rest
    return some "+"
  | .placeholder "?" :: rest => do
    set rest
    return some "?"
  | .symbol "\x7b" :: rest => do
    set rest
    if ← symbol "," then closed ("," ++ Number.intText (← smallNatural))
    else
      let least := Number.intText (← smallNatural)
      if ← symbol "," then
        if ← atSymbol "\x7d" then closed (least ++ ",")
        else closed (least ++ "," ++ Number.intText (← smallNatural))
      else closed least
  | _ => return none

/-- A pattern without alternatives, neighbours or counts; `inner` reads a whole pattern. -/
def patternUnit (inner : Parse String) : Parse String := do
  match ← ahead with
  | .symbol "^" :: rest => do
    set rest
    return "^"
  | .placeholder "$" :: rest => do
    set rest
    return "$"
  | .symbol "\x7b" :: rest => do
    -- a name between braces and minus signs is matched and left out
    set rest
    expectSymbol "-"
    let n ← name
    expectSymbol "-"
    expectSymbol "\x7d"
    return "\x7b- " ++ n.text ++ " -\x7d"
  | .symbol "(" :: _ => return "( " ++ (← parenthesized inner) ++ " )"
  | .word ⟨"PERMUTE", none⟩ _ :: rest => do
    set rest
    return "PERMUTE(" ++ commaText ((← names).map Name.text) ++ ")"
  | _ => return (← name).text

/-- A pattern with the counts behind it. -/
def countedPattern (inner : Parse String) : Parse String := do
  let unit ← patternUnit inner
  return unit ++ String.join (← repeated patternCount)

/-- Neighbouring patterns, up to a bar or a closing parenthesis. -/
def patternSequence (inner : Parse String) : Parse String := do
  let first ← countedPattern inner
  let more ← repeated do
    if (← atSymbol ")") || (← atSymbol "|") then return none
    else return some (← countedPattern inner)
  return String.intercalate " " (first :: more)

/-- A pattern, as far as the allowance goes. -/
def rowPatternWithin : (allowance : Nat) → Parse String
  | 0 => fail "a pattern"
  | allowance + 1 => do
    let alternative := patternSequence (rowPatternWithin allowance)
    let first ← alternative
    let more ← repeated do
      if ← symbol "|" then return some (← alternative) else return none
    return String.intercalate " | " (first :: more)

/-- **A row pattern.** -/
def rowPattern : Parse String := do rowPatternWithin ((← ahead).length + 1)

end Pushdown.Sql
