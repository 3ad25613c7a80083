import IronicTemper.Basic
import Mathlib.Algebra.Group.Nat.Basic

set_option autoImplicit false

/-! # The Go library functions the clients call

Those whose corner cases matter: `strings.Split` (names and interface IDs are cut at `-` and
`.`), slice indexing, which panics past the end, a few other string functions, `fmt.Errorf` with
a format and no operands, which runs the string through `fmt`'s verb parser, gophercloud's
`EachPage`, and the float64 rounding of an integer conversion and of a product. -/

namespace IronicTemper

/-! ## `strings.Split` -/

/-- The fields of a character list split at `sep`: the field in progress and the finished ones
    after it. -/
def splitAux (sep : Char) : List Char → List Char × List (List Char)
  | [] => ([], [])
  | c :: cs =>
    match splitAux sep cs with
    | (f, fs) => if c = sep then ([], f :: fs) else (c :: f, fs)

/-- Go's `strings.Split(s, sep)` for a one-character separator: the fields between the
    separators, always at least one. -/
def stringsSplit (s : String) (sep : Char) : List String :=
  match splitAux sep s.data with
  | (f, fs) => (f :: fs).map String.mk

theorem stringsSplit_ne_nil (s : String) (sep : Char) : stringsSplit s sep ≠ [] := by
  simp [stringsSplit]

theorem splitAux_length (sep : Char) (cs : List Char) :
    (splitAux sep cs).2.length = cs.count sep := by
  induction cs with
  | nil => rfl
  | cons c cs ih =>
    simp only [splitAux, List.count_cons, beq_iff_eq]
    split_ifs with h <;> simp [ih]

theorem stringsSplit_length (s : String) (sep : Char) :
    (stringsSplit s sep).length = s.data.count sep + 1 := by
  simp [stringsSplit, splitAux_length]

theorem one_lt_length_stringsSplit_iff (s : String) (sep : Char) :
    1 < (stringsSplit s sep).length ↔ sep ∈ s.data := by
  rw [stringsSplit_length, ← List.count_pos_iff]
  omega

theorem splitAux_of_not_mem {sep : Char} {cs : List Char} (h : sep ∉ cs) :
    splitAux sep cs = (cs, []) := by
  induction cs with
  | nil => rfl
  | cons c cs ih =>
    rw [List.mem_cons, not_or] at h
    simp [splitAux, ih h.2, Ne.symm h.1]

theorem splitAux_append_sep {sep : Char} {xs : List Char} (ys : List Char) (h : sep ∉ xs) :
    splitAux sep (xs ++ sep :: ys) = (xs, (splitAux sep ys).1 :: (splitAux sep ys).2) := by
  induction xs with
  | nil => simp [splitAux]
  | cons x xs ih =>
    rw [List.mem_cons, not_or] at h
    simp [splitAux, ih h.2, Ne.symm h.1]

theorem stringsSplit_append_sep {sep : Char} {a : String} (b : String) (h : sep ∉ a.data) :
    stringsSplit (a ++ String.singleton sep ++ b) sep = a :: stringsSplit b sep := by
  have hd : (a ++ String.singleton sep ++ b).data = a.data ++ sep :: b.data := by
    simp [String.singleton]
  simp only [stringsSplit, hd, splitAux_append_sep _ h]
  rfl

theorem stringsSplit_of_not_mem {sep : Char} {s : String} (h : sep ∉ s.data) :
    stringsSplit s sep = [s] := by
  simp [stringsSplit, splitAux_of_not_mem h]

/-! ## Slices and other string functions -/

/-- Go's `s[i]` on a slice: the element, or the panic past the end. -/
def goIndex {α : Type} (s : List α) (i : Nat) : Except Panic α :=
  match s[i]? with
  | some a => .ok a
  | none => .error .indexOutOfRange

@[simp] theorem goIndex_cons_zero {α : Type} (a : α) (s : List α) : goIndex (a :: s) 0 = .ok a := by
  simp [goIndex]

@[simp] theorem goIndex_cons_succ {α : Type} (a : α) (s : List α) (i : Nat) :
    goIndex (a :: s) (i + 1) = goIndex s i := by
  simp [goIndex]

theorem goIndex_eq_error_iff {α : Type} (s : List α) (i : Nat) :
    goIndex s i = .error .indexOutOfRange ↔ s.length ≤ i := by
  unfold goIndex
  split <;> rename_i h <;> simp_all [List.getElem?_eq_none_iff]
  exact (List.getElem?_eq_some_iff.1 h).1

/-- `strings.Replace(s, old, new, 1)` for one-character `old` and `new`: the first `old` is
    replaced. -/
def replaceFirst (old new : Char) : List Char → List Char
  | [] => []
  | c :: cs => if c = old then new :: cs else c :: replaceFirst old new cs

/-- `strings.ReplaceAll(s, old, new)` for one-character `old` and `new`. -/
def replaceAll (old new : Char) (cs : List Char) : List Char :=
  cs.map fun c => if c = old then new else c

/-- `strings.Contains(s, sub)`. -/
def containsSub (sub : List Char) : List Char → Bool
  | [] => sub.isEmpty
  | c :: cs => sub.isPrefixOf (c :: cs) || containsSub sub cs

/-! ## `fmt.Errorf` with no operands

Go's `doPrintf` copies text up to a `%`, then parses flags, an argument index `[n]`, a width, a
precision, another index, and the verb; with no operands every verb but `%` lacks its operand.
Go indexes the format by byte, but compares only with ASCII characters and decodes the verb as a
rune, so reading it character by character gives the same output. -/

/-- The flags `#`, `0`, `+`, `-` and space. -/
def isFmtFlag (c : Char) : Bool := c = '#' || c = '0' || c = '+' || c = '-' || c = ' '

/-- `parsenum`: the digits at the front of `cs`, whether there was one, and the rest. A number
    past `1e6` makes `parsenum` give up and jump to the end of its range, which is the empty
    rest. -/
def parseNum (num : Nat) (isnum : Bool) : List Char → Bool × List Char
  | [] => (isnum, [])
  | c :: cs =>
    if c.isDigit then
      if num > 1000000 then (false, [])
      else parseNum (num * 10 + (c.toNat - '0'.toNat)) true cs
    else (isnum, c :: cs)

/-- `parseArgNumber` on the format after a `[`: whether `[n]` holds a number, and the format after
    what it consumes (through the `]`, or only the `[` when there is no `]`). -/
def parseArgNumber (cs : List Char) : Bool × List Char :=
  if cs.length < 2 then (false, cs) else
  match cs.span (· != ']') with
  | (digits, ']' :: after) => (parseNum 0 false digits == (true, []), after)
  | _ => (false, cs)

/-- How far `doPrintf` has got with one verb: the text it wrote, whether the last item was an
    argument index (`afterIndex`), whether an index made the operand number bad
    (`!goodArgNum`), and the format left. -/
structure VerbParse where
  out : List Char
  afterIndex : Bool
  badArgNum : Bool
  rest : List Char

/-- `p.argNumber`: with no operands, every `[...]` makes the operand number bad. -/
def argNumber (v : VerbParse) : VerbParse :=
  match v.rest with
  | '[' :: cs =>
    { v with afterIndex := (parseArgNumber cs).1, badArgNum := true, rest := (parseArgNumber cs).2 }
  | _ => { v with afterIndex := false }

/-- The width: `*` has no operand to take, otherwise digits. -/
def widthStep (v : VerbParse) : VerbParse :=
  match v.rest with
  | '*' :: cs => { v with out := v.out ++ "%!(BADWIDTH)".toList, afterIndex := false, rest := cs }
  | cs =>
    { v with badArgNum := v.badArgNum || (v.afterIndex && (parseNum 0 false cs).1),
             rest := (parseNum 0 false cs).2 }

/-- The precision's value: `*` has no operand to take, otherwise digits. -/
def precValue (w : VerbParse) : VerbParse :=
  match w.rest with
  | '*' :: cs => { w with out := w.out ++ "%!(BADPREC)".toList, afterIndex := false, rest := cs }
  | cs => { w with rest := (parseNum 0 false cs).2 }

/-- The precision, after a `.` that is not the last character: an index, then its value. -/
def precStep (v : VerbParse) : VerbParse :=
  match v.rest with
  | '.' :: c :: cs =>
    precValue (argNumber { v with badArgNum := v.badArgNum || v.afterIndex, rest := c :: cs })
  | _ => v

/-- The index read before the verb when the last item was not one. -/
def lastIndexStep (v : VerbParse) : VerbParse := if v.afterIndex then v else argNumber v

/-- The verb: the text printed for it, and the format after it, or `none` when the format ended
    first, which ends the printing. -/
def verbText (v : VerbParse) : List Char × Option (List Char) :=
  match v.rest with
  | [] => (v.out ++ "%!(NOVERB)".toList, none)
  | '%' :: cs => (v.out ++ ['%'], some cs)
  | c :: cs =>
    (v.out ++ ['%', '!', c] ++ (if v.badArgNum then "(BADINDEX)" else "(MISSING)").toList, some cs)

/-- One verb, the format after its `%`. -/
def fmtVerb (cs : List Char) : List Char × Option (List Char) :=
  verbText (lastIndexStep (precStep (widthStep (argNumber ⟨[], false, false, cs.dropWhile isFmtFlag⟩))))

theorem parseNum_rest_length (num : Nat) (isnum : Bool) (cs : List Char) :
    (parseNum num isnum cs).2.length ≤ cs.length := by
  induction cs generalizing num isnum with
  | nil => exact le_rfl
  | cons c cs ih =>
    simp only [parseNum]
    split_ifs
    · simp
    · exact (ih _ _).trans (Nat.le_succ _)
    · exact le_rfl

theorem parseArgNumber_rest_length (cs : List Char) : (parseArgNumber cs).2.length ≤ cs.length := by
  unfold parseArgNumber
  split_ifs
  · exact le_rfl
  · split
    · rename_i digits after hs
      rw [List.span_eq_take_drop, Prod.mk.injEq] at hs
      have := (List.dropWhile_suffix (l := cs) (· != ']')).length_le
      rw [hs.2, List.length_cons] at this
      show after.length ≤ cs.length
      omega
    · exact le_rfl

theorem argNumber_rest_length (v : VerbParse) : (argNumber v).rest.length ≤ v.rest.length := by
  unfold argNumber
  split
  · rename_i cs h
    rw [h]
    exact (parseArgNumber_rest_length cs).trans (Nat.le_succ _)
  · exact le_rfl

theorem widthStep_rest_length (v : VerbParse) : (widthStep v).rest.length ≤ v.rest.length := by
  unfold widthStep
  split
  · simp_all
  · exact parseNum_rest_length _ _ _

theorem precValue_rest_length (w : VerbParse) : (precValue w).rest.length ≤ w.rest.length := by
  unfold precValue
  split
  · simp_all
  · exact parseNum_rest_length _ _ _

theorem precStep_rest_length (v : VerbParse) : (precStep v).rest.length ≤ v.rest.length := by
  unfold precStep
  split
  · rename_i c cs h
    refine (precValue_rest_length _).trans ((argNumber_rest_length _).trans ?_)
    simp [h]
  · exact le_rfl

theorem lastIndexStep_rest_length (v : VerbParse) :
    (lastIndexStep v).rest.length ≤ v.rest.length := by
  unfold lastIndexStep
  split
  · exact le_rfl
  · exact argNumber_rest_length v

/-- A verb consumes at least its last character, so the format left is shorter than the format
    after the `%`, counting the `%`. -/
theorem fmtVerb_rest_length {cs out rest : List Char} (h : fmtVerb cs = (out, some rest)) :
    rest.length < cs.length + 1 := by
  let v := lastIndexStep (precStep (widthStep (argNumber ⟨[], false, false, cs.dropWhile isFmtFlag⟩)))
  have hv : v.rest.length ≤ cs.length :=
    (lastIndexStep_rest_length _).trans <| (precStep_rest_length _).trans <|
      (widthStep_rest_length _).trans <| (argNumber_rest_length _).trans
        (List.dropWhile_suffix _).length_le
  change verbText v = (out, some rest) at h
  unfold verbText at h
  split at h
  · cases h
  · rename_i cs' hr; cases h; rw [hr] at hv; simp at hv; omega
  · rename_i c cs' _ hr; cases h; rw [hr] at hv; simp at hv; omega

/-- `fmt`'s `doPrintf` with no operands, on the format's characters. -/
def doPrintf (cs : List Char) : List Char :=
  match cs with
  | [] => []
  | c :: cs =>
    if c = '%' then
      match h : fmtVerb cs with
      | (out, none) => out
      | (out, some rest) =>
        have : rest.length < cs.length + 1 := fmtVerb_rest_length h
        out ++ doPrintf rest
    else c :: doPrintf cs
termination_by cs.length

/-- `fmt.Errorf(format)` with no operands. -/
def fmtErrorf (format : String) : GoError := .errorf ⟨doPrintf format.data⟩

theorem doPrintf_append_of_not_mem {xs : List Char} (cs : List Char) (h : '%' ∉ xs) :
    doPrintf (xs ++ cs) = xs ++ doPrintf cs := by
  induction xs with
  | nil => rfl
  | cons c xs ih =>
    rw [List.mem_cons, not_or] at h
    rw [List.cons_append, doPrintf, if_neg (Ne.symm h.1), ih h.2, List.cons_append]

theorem doPrintf_of_not_mem {cs : List Char} (h : '%' ∉ cs) : doPrintf cs = cs := by
  simpa [doPrintf] using doPrintf_append_of_not_mem [] h

theorem doPrintf_percent (cs : List Char) :
    doPrintf ('%' :: cs) =
      match fmtVerb cs with
      | (out, none) => out
      | (out, some rest) => out ++ doPrintf rest := by
  rw [doPrintf, if_pos rfl]
  split <;> simp_all

theorem fmtErrorf_of_not_mem {format : String} (h : '%' ∉ format.data) :
    fmtErrorf format = .errorf format := by
  rw [fmtErrorf, doPrintf_of_not_mem h]

/-! ## `pagination.Pager.EachPage`

A page is modelled by what `Extract*` gets from it, or the error fetching or extracting it; the
list of pages ends where the last page has no next URL, so a `SinglePageBase` pager's listing is
one page. The closure's written variables are the handler's state. -/

/-- `Pager.EachPage(handler)`: stop at the end of the listing, at an empty page, at an error, or
    when the handler answers false; otherwise go on with the next page. -/
def eachPage {σ α : Type} (handler : σ → List α → σ × Except GoError Bool) :
    σ → List (Except GoError (List α)) → σ × Option GoError
  | s, [] => (s, none)
  | s, .error e :: _ => (s, some e)
  | s, .ok [] :: _ => (s, none)
  | s, .ok (a :: as) :: rest =>
    match handler s (a :: as) with
    | (s', .error e) => (s', some e)
    | (s', .ok false) => (s', none)
    | (s', .ok true) => eachPage handler s' rest

theorem eachPage_of_stop {σ α : Type} (handler : σ → List α → σ × Except GoError Bool)
    (hstop : ∀ s items, (handler s items).2 = .ok false) (s : σ) (items : List α)
    (rest : List (Except GoError (List α))) :
    eachPage handler s (.ok items :: rest) = eachPage handler s [.ok items] := by
  cases items with
  | nil => rfl
  | cons a as =>
    have h := hstop s (a :: as)
    simp only [eachPage]
    cases hh : handler s (a :: as) with
    | mk s' r => rw [hh] at h; subst h; rfl

/-! ## `float64` rounding -/

/-- The number of binary digits of `n`, halving it at most `fuel` times. -/
def bitLengthAux : Nat → Nat → Nat
  | 0, _ => 0
  | fuel + 1, n => if n = 0 then 0 else bitLengthAux fuel (n / 2) + 1

/-- The number of binary digits of `n`. -/
def bitLength (n : Nat) : Nat := bitLengthAux n n

/-- `n / 2^s` rounded to the nearest integer, ties to even. -/
def roundHalfEven (n s : Nat) : Nat :=
  if 2 * (n % 2 ^ s) > 2 ^ s ∨ (2 * (n % 2 ^ s) = 2 ^ s ∧ n / 2 ^ s % 2 = 1) then n / 2 ^ s + 1
  else n / 2 ^ s

/-- The float64 nearest `n`, ties to even: `n` rounded to 53 significant bits (for `n` below
    `2^1024`, where the float64 is finite). -/
def toFloat64 (n : Nat) : Nat :=
  roundHalfEven n (bitLength n - 53) * 2 ^ (bitLength n - 53)

theorem bitLengthAux_spec :
    ∀ (fuel n : Nat), 0 < n → n ≤ fuel → 2 ^ (bitLengthAux fuel n - 1) ≤ n
  | 0, n, hn, hf => by omega
  | fuel + 1, n, hn, hf => by
    rw [bitLengthAux, if_neg (by omega)]
    by_cases h2 : n / 2 = 0
    · have : bitLengthAux fuel (n / 2) = 0 := by cases fuel <;> simp [bitLengthAux, h2]
      simp [this]; omega
    · have ih := bitLengthAux_spec fuel (n / 2) (by omega) (by omega)
      rcases hb : bitLengthAux fuel (n / 2) with _ | b
      · simp; omega
      · rw [hb] at ih
        simp only [Nat.add_sub_cancel, Nat.add_one_sub_one] at ih ⊢
        rw [Nat.pow_succ]; omega

theorem two_pow_bitLength_le {n : Nat} (hn : 0 < n) : 2 ^ (bitLength n - 1) ≤ n :=
  bitLengthAux_spec n n hn le_rfl

theorem div_le_roundHalfEven (n s : Nat) : n / 2 ^ s ≤ roundHalfEven n s := by
  unfold roundHalfEven; split_ifs <;> omega

theorem roundHalfEven_le (n s : Nat) : roundHalfEven n s ≤ n / 2 ^ s + 1 := by
  unfold roundHalfEven; split_ifs <;> omega

@[simp] theorem roundHalfEven_zero (n : Nat) : roundHalfEven n 0 = n := by
  simp [roundHalfEven, Nat.mod_one]

/-- Rounding to a float64 moves a number by less than one part in a hundred: the bits dropped
    weigh less than `2^-52` of it. -/
theorem toFloat64_bounds (n : Nat) :
    99 * n ≤ 100 * toFloat64 n ∧ 100 * toFloat64 n ≤ 101 * n := by
  unfold toFloat64
  rcases Nat.eq_zero_or_pos (bitLength n - 53) with hs | hs
  · rw [hs]; simp; omega
  · have hn : 0 < n := Nat.pos_of_ne_zero fun h => by simp [h, bitLength, bitLengthAux] at hs
    have hlen : 2 ^ (bitLength n - 53) * 2 ^ 52 ≤ n := by
      rw [← Nat.pow_add, show bitLength n - 53 + 52 = bitLength n - 1 by omega]
      exact two_pow_bitLength_le hn
    generalize ht : 2 ^ (bitLength n - 53) = t at hlen ⊢
    have ht0 : 0 < t := ht ▸ Nat.pos_pow_of_pos _ (by decide)
    have hdm := Nat.div_add_mod n t
    have hr := Nat.mod_lt n ht0
    have h1 := Nat.mul_le_mul_left t (div_le_roundHalfEven n (bitLength n - 53))
    have h2 := Nat.mul_le_mul_left t (roundHalfEven_le n (bitLength n - 53))
    rw [ht] at h1 h2
    rw [Nat.mul_add, Nat.mul_one] at h2
    rw [Nat.mul_comm (roundHalfEven _ _)]
    constructor <;> omega

end IronicTemper
