import Pushdown.Proofs.Json.Entries
import Pushdown.Proofs.Json.Numerals

/-!
# The text of a value means the value

A value is read off its text, and off the front of any text that it is written in front of,
provided that no number runs on into what is behind it. The texts of items and of entries are what
a text is written in front of, and they begin with a comma or a closing bracket, so the statement
for values (`ReadOff`) is the one that goes through the induction, and that whole texts are read
back (`read_before`) is a case of it.

What can be read back is said by `Recoverable`, along with the number of containers that may still
be opened. That integers have sixty-four bits and objects distinct keys is so of all values that are
held anywhere; what is asked beyond is that the text of a number with a fraction means the number,
and that containers do not nest too deeply. The reader's allowance is never what stops it: a value
costs it at most two steps and has at least one character.

A text holds no control character (`puts_before`), so the text of a value is always one line.
-/

namespace Pushdown.Json

/-! ### Specification -/

/-- **Values that their text recovers**, if they are read with the given number of containers still
to be opened. -/
inductive Recoverable : (depth : Nat) → Json → Prop where
  | null {depth : Nat} : Recoverable depth .null
  | bool {depth : Nat} (b : Bool) : Recoverable depth (.bool b)
  /-- A number has to be held as it is written. -/
  | number {depth : Nat} {n : JsonNumber} (hn : n.Storable) : Recoverable depth (.number n)
  /-- A text may hold any characters. -/
  | string {depth : Nat} (s : String) : Recoverable depth (.string s)
  /-- An array opens a container for all its items. -/
  | array {depth : Nat} {items : List Json} (hitems : ∀ x ∈ items, Recoverable depth x) :
      Recoverable (depth + 1) (.array items)
  /-- So does an object for the values of its entries, and of each key it has one. -/
  | object {depth : Nat} {entries : Record} (hkeys : (Record.keys entries).Nodup)
      (hentries : ∀ e ∈ entries, Recoverable depth e.2) : Recoverable (depth + 1) (.object entries)

/-- A value is read off the front of every text that it is written in front of, and what is behind
it is left. -/
def ReadOff (depth : Nat) (v : Json) : Prop :=
  ∀ allowance rest, EndsNumeral rest → 2 * (v.before rest).length ≤ allowance →
    readValue allowance depth (v.before rest) = .ok (v, rest)

/-! ### Quoted texts -/

section

variable {reversed rest : List Char}

theorem unit?_hexDigit {n : Nat} (h : n < 256) :
    unit? '0' '0' (Number.hexDigit (n / 16)) (Number.hexDigit (n % 16)) = some n := by
  have hhigh : Number.hexValue? (Number.hexDigit (n / 16)) = some (n / 16) :=
    Number.hexValue?_hexDigit ⟨n / 16, by omega⟩
  have hlow : Number.hexValue? (Number.hexDigit (n % 16)) = some (n % 16) :=
    Number.hexValue?_hexDigit ⟨n % 16, by omega⟩
  have hzero : Number.hexValue? '0' = some 0 := by decide
  have hn : ((0 * 16 + 0) * 16 + n / 16) * 16 + n % 16 = n := by omega
  simp only [unit?, hzero, hhigh, hlow]
  exact congrArg some hn

/-- A control character is read by its number. -/
theorem readQuoted_hexDigit {c : Char} (hc : c.toNat < 0x20) :
    readQuoted reversed ('\\' :: 'u' :: '0' :: '0' :: Number.hexDigit (c.toNat / 16) ::
      Number.hexDigit (c.toNat % 16) :: rest) = readQuoted (c :: reversed) rest := by
  -- a control character is far below the surrogates, so no second escape is looked for
  have hhigh : isHighSurrogate c.toNat = false := by
    rw [isHighSurrogate, Bool.and_eq_false_iff, decide_eq_false_iff_not]
    exact .inl (by omega)
  have hlow : isLowSurrogate c.toNat = false := by
    rw [isLowSurrogate, Bool.and_eq_false_iff, decide_eq_false_iff_not]
    exact .inl (by omega)
  have hunit := unit?_hexDigit (n := c.toNat) (by omega)
  rw [readQuoted]
  simp [hunit, hlow, hhigh, Char.ofNat_toNat]

/-- **As a character stands inside quotes, it is read.** -/
theorem readQuoted_escapedChar (c : Char) :
    readQuoted reversed (escapedChar c ++ rest) = readQuoted (c :: reversed) rest := by
  -- the short escapes evaluate; left are control characters without one, and plain characters
  unfold escapedChar
  split
  case h_8 hquote hbackslash _ _ _ _ _ =>
    split
    case isTrue hcontrol => exact readQuoted_hexDigit hcontrol
    case isFalse hcontrol =>
      rw [List.singleton_append, readQuoted, if_neg hcontrol]
      · exact hquote
      · exact fun _ _ _ _ _ h => absurd h hbackslash
      · exact fun _ _ h => absurd h hbackslash
  all_goals rfl

theorem readQuoted_flatMap (cs : List Char) :
    readQuoted reversed (cs.flatMap escapedChar ++ '"' :: rest) =
      .ok (String.ofList (reversed.reverse ++ cs), rest) := by
  induction cs generalizing reversed with
  -- what was read is held in reverse, hence the `reverse` in the statement
  | nil => rw [List.append_nil]; rfl
  | cons c cs ih =>
    rw [List.flatMap_cons, List.append_assoc, readQuoted_escapedChar, ih, List.reverse_cons,
      List.append_assoc]
    rfl

/-- **A text in quotes is read as the text.** -/
theorem readQuoted_quoted (s : String) :
    readQuoted [] (s.toList.flatMap escapedChar ++ '"' :: rest) = .ok (s, rest) := by
  rw [readQuoted_flatMap, List.reverse_nil, List.nil_append, String.ofList_toList]

theorem readKey_quotedBefore (s : String) : readKey (quotedBefore s rest) = .ok (s, rest) :=
  readQuoted_quoted s

end

/-! ### Texts without control characters -/

/-- A text without control characters is put in front. -/
def Puts (f : List Char → List Char) : Prop :=
  ∃ text : List Char, (∀ c ∈ text, 0x20 ≤ c.toNat) ∧ ∀ rest, f rest = text ++ rest

section

variable {f g : List Char → List Char}

theorem puts_id : Puts fun rest => rest := ⟨[], nofun, fun _ => rfl⟩

theorem puts_append {text : List Char} (h : ∀ c ∈ text, 0x20 ≤ c.toNat) :
    Puts fun rest => text ++ rest := ⟨text, h, fun _ => rfl⟩

theorem Puts.comp (hf : Puts f) (hg : Puts g) : Puts fun rest => f (g rest) := by
  obtain ⟨first, hfirst, hf⟩ := hf
  obtain ⟨second, hsecond, hg⟩ := hg
  refine ⟨first ++ second, fun c hc => ?_, fun rest => ?_⟩
  · exact (List.mem_append.1 hc).elim (hfirst c) (hsecond c)
  · show f (g rest) = _
    rw [hg, hf, List.append_assoc]

theorem Puts.cons (hf : Puts f) {c : Char} (hc : 0x20 ≤ c.toNat) : Puts fun rest => c :: f rest :=
  (puts_append (List.forall_mem_singleton.2 hc)).comp hf

theorem Puts.length_le (hf : Puts f) (rest : List Char) : rest.length ≤ (f rest).length := by
  obtain ⟨text, -, hf⟩ := hf
  rw [hf, List.length_append]
  exact Nat.le_add_left _ _

end

theorem puts_escapedChar (c : Char) : Puts fun rest => escapedChar c ++ rest := by
  refine puts_append ?_
  unfold escapedChar
  split
  case h_8 =>
    split
    case isTrue hcontrol =>
      -- the digits of an escape are characters too, and none of them is a control character
      have hdigit (n : Fin 16) : 0x20 ≤ (Number.hexDigit n).toNat := by decide +revert
      have hhigh := hdigit ⟨c.toNat / 16, by omega⟩
      have hlow := hdigit ⟨c.toNat % 16, by omega⟩
      simp [hhigh, hlow]
    case isFalse hcontrol => exact List.forall_mem_singleton.2 (Nat.le_of_not_lt hcontrol)
  all_goals simp

theorem puts_quotedBefore (s : String) : Puts (quotedBefore s) := by
  -- character by character, on what stands between the quotes
  have hchars (cs : List Char) : Puts fun rest => cs.flatMap escapedChar ++ rest := by
    induction cs with
    | nil => exact puts_id
    | cons c cs ih =>
      simp only [List.flatMap_cons, List.append_assoc]
      exact (puts_escapedChar c).comp ih
  exact ((hchars s.toList).comp (puts_id.cons (by decide))).cons (by decide)

theorem not_control_of_isNumeralChar {c : Char} (hc : isNumeralChar c = true) :
    0x20 ≤ c.toNat := by
  refine Nat.le_of_not_lt fun hlt => ?_
  -- there are thirty-two control characters: none of them is one of numbers
  have hcontrol (n : Fin 0x20) : isNumeralChar (Char.ofNat n) = false := by decide +revert
  have hnot := hcontrol ⟨c.toNat, hlt⟩
  rw [Char.ofNat_toNat] at hnot
  exact absurd (hc.symm.trans hnot) nofun

theorem puts_number (n : JsonNumber) : Puts fun rest => n.text.toList ++ rest := by
  have hall {s : String} (h : s.toList.all isNumeralChar = true) :
      Puts fun rest => s.toList ++ rest :=
    puts_append fun c hc => not_control_of_isNumeralChar (List.all_eq_true.1 h c hc)
  cases n with
  | int i => exact hall (all_intText i)
  | float x =>
    unfold JsonNumber.text
    dsimp only
    split
    case isTrue => exact hall (all_text x)
    case isFalse => exact puts_append (by simp)

mutual
/-- **The text of a value holds no control character.** -/
theorem puts_before : ∀ v : Json, Puts v.before
  | .null => puts_append (by simp)
  | .bool true => puts_append (by simp)
  | .bool false => puts_append (by simp)
  | .number n => puts_number n
  | .string s => puts_quotedBefore s
  | .array [] => (puts_id.cons (by decide)).cons (by decide)
  | .array (x :: xs) =>
    ((puts_before x).comp ((puts_itemsBefore xs).comp (puts_id.cons (by decide)))).cons (by decide)
  | .object [] => (puts_id.cons (by decide)).cons (by decide)
  | .object ((k, x) :: es) =>
    ((puts_quotedBefore k).comp (((puts_before x).comp
      ((puts_entriesBefore es).comp (puts_id.cons (by decide)))).cons (by decide))).cons (by decide)
theorem puts_itemsBefore : ∀ xs : List Json, Puts (itemsBefore xs)
  | [] => puts_id
  | x :: xs => ((puts_before x).comp (puts_itemsBefore xs)).cons (by decide)
theorem puts_entriesBefore : ∀ es : List (String × Json), Puts (entriesBefore es)
  | [] => puts_id
  | (k, x) :: es =>
    ((puts_quotedBefore k).comp
      (((puts_before x).comp (puts_entriesBefore es)).cons (by decide))).cons (by decide)
end

/-! ### What a text begins with -/

/-- A text that opens a value: no blank, and no bracket that closes an array. -/
def OpensValue (cs : List Char) : Prop :=
  ∃ c more, cs = c :: more ∧ isJsonBlank c = false ∧ c ≠ ']'

theorem opensValue_before {depth : Nat} {v : Json} (h : Recoverable depth v) (rest : List Char) :
    OpensValue (v.before rest) := by
  cases h with
  | null => exact ⟨'n', _, rfl, rfl, by decide⟩
  | bool b =>
    cases b with
    | true => exact ⟨'t', _, rfl, rfl, by decide⟩
    | false => exact ⟨'f', _, rfl, rfl, by decide⟩
  | number hn =>
    obtain ⟨c, more, heq, hchar, -⟩ := exists_text_eq_cons hn
    refine ⟨c, more ++ rest, ?_, not_isJsonBlank_of_isNumeralChar hchar,
      ne_of_isNumeralChar hchar rfl⟩
    -- a number opens with a character of its own text, whatever comes behind
    rw [before, heq, List.cons_append]
  | string s => exact ⟨'"', _, rfl, rfl, by decide⟩
  | @array _ items =>
    cases items with
    -- an array opens with its bracket, be it empty or not
    | nil => exact ⟨'[', _, rfl, rfl, by decide⟩
    | cons x xs => exact ⟨'[', _, rfl, rfl, by decide⟩
  | @object _ entries =>
    cases entries with
    | nil => exact ⟨'{', _, rfl, rfl, by decide⟩
    | cons e es => exact ⟨'{', _, rfl, rfl, by decide⟩

/-! ### Reading -/

section

variable {allowance depth : Nat} {rest : List Char}

/-- The allowance for a text is not used up, as the text is not empty. -/
theorem ReadOff.of_succ {v : Json} (hv : Recoverable depth v)
    (h : ∀ allowance rest, EndsNumeral rest → 2 * (v.before rest).length ≤ allowance + 1 →
      readValue (allowance + 1) depth (v.before rest) = .ok (v, rest)) : ReadOff depth v := by
  intro allowance rest hrest hallowance
  obtain ⟨c, more, heq, -, -⟩ := opensValue_before hv rest
  have hlength : (v.before rest).length = more.length + 1 := congrArg List.length heq
  obtain ⟨allowance, rfl⟩ : ∃ n, allowance = n + 1 := ⟨allowance - 1, by omega⟩
  exact h allowance rest hrest hallowance

/-- **The items of an array are read** if each of them can be read off a text. -/
theorem readItems_before {x : Json} {xs : List Json} (h : ∀ y ∈ x :: xs, ReadOff depth y)
    (hallowance : 2 * (x.before (itemsBefore xs (']' :: rest))).length + 1 ≤ allowance) :
    readItems allowance depth (x.before (itemsBefore xs (']' :: rest))) = .ok (x :: xs, rest) := by
  -- on the items; each step costs one of the allowance and leaves a comma behind
  obtain ⟨hx, hxs⟩ := List.forall_mem_cons.1 h
  have hshorter := (puts_before x).length_le (itemsBefore xs (']' :: rest))
  obtain ⟨allowance, rfl⟩ : ∃ n, allowance = n + 1 := ⟨allowance - 1, by omega⟩
  induction xs generalizing x allowance with
  | nil =>
    rw [itemsBefore] at hallowance ⊢
    rw [readItems, hx allowance (']' :: rest) (endsNumeral_cons rfl rest) (by omega)]
    rfl
  | cons y ys ih =>
    obtain ⟨hy, hys⟩ := List.forall_mem_cons.1 hxs
    have hlater := (puts_before y).length_le (itemsBefore ys (']' :: rest))
    rw [itemsBefore] at hallowance hshorter ⊢
    rw [List.length_cons] at hshorter
    obtain ⟨less, rfl⟩ : ∃ n, allowance = n + 1 := ⟨allowance - 1, by omega⟩
    have hrest := ih hxs hy hys hlater less (by omega)
    rw [readItems, hx _ _ (endsNumeral_cons rfl _) (by omega)]
    show (readItems (less + 1) depth (y.before (itemsBefore ys (']' :: rest))) >>= _) = _
    rw [hrest]
    rfl

theorem entriesBefore_cons (e : String × Json) (es : Record) : entriesBefore (e :: es) rest =
    ',' :: quotedBefore e.1 (':' :: e.2.before (entriesBefore es rest)) := rfl

/-- **So are the entries of an object**, each with its key. -/
theorem readEntries_before {e : String × Json} {es : Record} (h : ∀ d ∈ e :: es, ReadOff depth d.2)
    (hallowance : 2 * (quotedBefore e.1 (':' :: e.2.before
      (entriesBefore es ('}' :: rest)))).length + 1 ≤ allowance) :
    readEntries allowance depth (quotedBefore e.1 (':' :: e.2.before
      (entriesBefore es ('}' :: rest)))) = .ok (e :: es, rest) := by
  obtain ⟨hvalue, hvalues⟩ := List.forall_mem_cons.1 h
  have hkey := (puts_quotedBefore e.1).length_le
    (':' :: e.2.before (entriesBefore es ('}' :: rest)))
  rw [List.length_cons] at hkey
  have hshorter := (puts_before e.2).length_le (entriesBefore es ('}' :: rest))
  obtain ⟨allowance, rfl⟩ : ∃ n, allowance = n + 1 := ⟨allowance - 1, by omega⟩
  -- on the entries, like the items: the key takes characters too, so it pays for its step
  induction es generalizing e allowance with
  | nil =>
    rw [entriesBefore] at hallowance hkey ⊢
    rw [readEntries, readKey_quotedBefore]
    show (readValue allowance depth (e.2.before ('}' :: rest)) >>= _) = _
    rw [hvalue allowance ('}' :: rest) (endsNumeral_cons rfl rest) (by omega)]
    rfl
  | cons d ds ih =>
    obtain ⟨hd, hds⟩ := List.forall_mem_cons.1 hvalues
    have hlaterKey := (puts_quotedBefore d.1).length_le
      (':' :: d.2.before (entriesBefore ds ('}' :: rest)))
    rw [List.length_cons] at hlaterKey
    have hlater := (puts_before d.2).length_le (entriesBefore ds ('}' :: rest))
    rw [entriesBefore_cons] at hallowance hkey hshorter ⊢
    rw [List.length_cons] at hshorter
    -- two steps of the allowance for one entry: one for the value, one for the next entry
    obtain ⟨less, rfl⟩ : ∃ n, allowance = n + 1 := ⟨allowance - 1, by omega⟩
    have hrest := ih hvalues hd hds hlaterKey hlater less (by omega)
    rw [readEntries, readKey_quotedBefore]
    show (readValue (less + 1) depth (e.2.before _) >>= _) = _
    rw [hvalue _ _ (endsNumeral_cons rfl _) (by omega)]
    show (readEntries (less + 1) depth (quotedBefore d.1 _) >>= _) = _
    rw [hrest]
    rfl

/-- The items behind the bracket that opens an array. -/
theorem readValue_array {cs : List Char} {items : List Json} (hcs : OpensValue cs)
    (h : readItems allowance depth cs = .ok (items, rest)) :
    readValue (allowance + 1) (depth + 1) ('[' :: cs) = .ok (.array items, rest) := by
  obtain ⟨c, more, rfl, hblank, hc⟩ := hcs
  -- the next character is no closing bracket, so there are items
  simp only [readValue, skipBlanks_of_not (c := '[') rfl, skipBlanks_of_not hblank]
  split
  case h_1 heq => exact absurd (List.cons.inj heq).1 hc
  case h_2 =>
    rw [h]
    rfl

/-- The entries behind the brace that opens an object. -/
theorem readValue_object {e : String × Json} {es : Record}
    (h : readEntries allowance depth (quotedBefore e.1 (':' :: e.2.before
      (entriesBefore es ('}' :: rest)))) = .ok (e :: es, rest)) :
    readValue (allowance + 1) (depth + 1) ((Json.object (e :: es)).before rest) =
      .ok (.object (e :: es), rest) := by
  show (readEntries allowance depth (quotedBefore e.1 (':' :: e.2.before
      (entriesBefore es ('}' :: rest)))) >>= _) = _
  rw [h]
  rfl

/-- **What can be recovered is read off every text that it is written in front of.** -/
theorem Recoverable.readOff {v : Json} (h : Recoverable depth v) : ReadOff depth v := by
  -- on what makes the value recoverable: a container has one level less for all that is in it
  induction h with
  | null => exact .of_succ .null fun allowance rest _ _ => rfl
  | bool b =>
    refine .of_succ (.bool b) fun allowance rest _ _ => ?_
    cases b with
    | true => rfl
    | false => rfl
  | number hn => exact .of_succ (.number hn) fun allowance rest hrest _ => readValue_number hn hrest
  | string s =>
    refine .of_succ (.string s) fun allowance rest _ _ => ?_
    show (readQuoted [] (s.toList.flatMap escapedChar ++ '"' :: rest) >>= _) = _
    rw [readQuoted_quoted]
    rfl
  | @array depth items hitems ih =>
    refine .of_succ (.array hitems) fun allowance rest _ hallowance => ?_
    cases items with
    | nil => rfl
    | cons x xs =>
      -- the bracket pays for the step into the array
      refine readValue_array (opensValue_before (hitems x List.mem_cons_self) _)
        (readItems_before ih ?_)
      simp only [before, List.length_cons] at hallowance
      omega
  | @object depth entries hkeys hentries ih =>
    refine .of_succ (.object hkeys hentries) fun allowance rest _ hallowance => ?_
    cases entries with
    | nil => rfl
    | cons e es =>
      refine readValue_object (readEntries_before ih ?_)
      simp only [before, List.length_cons] at hallowance
      omega

end

/-! ### Repeated keys -/

theorem settledItems_eq_map (items : List Json) : settledItems items = items.map settled := by
  induction items with
  | nil => rfl
  | cons x xs ih => rw [settledItems, ih, List.map_cons]

theorem settledEntries_eq_map (entries : Record) :
    settledEntries entries = entries.map fun e => (e.1, settled e.2) := by
  induction entries with
  | nil => rfl
  | cons e es ih => rw [settledEntries, ih, List.map_cons]

/-- **Where no key is repeated, a value is settled.** -/
theorem Recoverable.settled_eq {depth : Nat} {v : Json} (h : Recoverable depth v) :
    settled v = v := by
  induction h with
  | null | bool b | number hn | string s => rfl
  | array _ ih => rw [settled, settledItems_eq_map, List.map_congr_left ih, List.map_id']
  | object hkeys _ ih =>
    rw [settled, settledEntries_eq_map,
      List.map_congr_left fun e he => congrArg (Prod.mk e.1) (ih e he), List.map_id',
      Record.ofList_of_nodup hkeys]

/-- **The text of a value means the value.** -/
theorem read_before {v : Json} (h : Recoverable depthLimit v) : read (v.before []) = .ok v := by
  have hvalue : readValue (2 * (v.before []).length + 2) depthLimit (v.before []) = .ok (v, []) :=
    h.readOff _ _ endsNumeral_nil (by omega)
  -- nothing is left behind the value, so no check of what follows can fail
  have hwritten : readAsWritten (v.before []) = .ok v := by
    rw [readAsWritten, hvalue]
    rfl
  rw [read, hwritten]
  exact congrArg Except.ok h.settled_eq

end Pushdown.Json
