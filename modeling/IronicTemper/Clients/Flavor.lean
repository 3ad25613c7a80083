import IronicTemper.GoLibrary
import Mathlib.Algebra.Order.Ring.Rat
import Mathlib.Tactic.NormNum

set_option autoImplicit false

/-! # The nearest-fit flavor matcher

`getMatchingFlavorFor` walks the flavor listing with three running thresholds, for RAM, root disk
and CPU, starting at the float64 literals `0.1`, `0.2` and `0.1`. A flavor within the RAM
threshold sets it to its own RAM delta before its disk delta is compared, and so on; a flavor that
passes all three writes its name into the result and `n.ResourceClass`. `calcDelta` is not in the
sources, so it is a parameter into the rationals, which every finite float64 denotes.

Since a flavor that fails the disk or CPU check still lowers the RAM threshold, flavors within the
initial thresholds, even better ones, can go unselected. The handler answers false, so `EachPage`
never shows it a second page. -/

namespace IronicTemper

/-- `flavors.Flavor`: the fields the matcher reads. -/
structure Flavor where
  name : String := ""
  ram : Int := 0
  disk : Int := 0
  vcpus : Int := 0
  deriving DecidableEq, Repr

/-- The float64 literal `0.1`, as the rational it denotes exactly. -/
def float01 : ℚ := 3602879701896397 / 36028797018963968

/-- The float64 literal `0.2`, as the rational it denotes exactly. -/
def float02 : ℚ := 3602879701896397 / 18014398509481984

/-! ## The loop over one page -/

section
variable (calcDelta : Int → Int → ℚ) (n : IronicNode)

/-- `calcDelta(f.RAM, n.InspectionData.Inventory.Memory.PhysicalMb)`. -/
def ramDelta (f : Flavor) : ℚ := calcDelta f.ram n.inspectionData.physicalMb

/-- `calcDelta(f.Disk, int(n.InspectionData.RootDisk.Size))`. -/
def diskDelta (f : Flavor) : ℚ := calcDelta f.disk n.inspectionData.rootDisk.size

/-- `calcDelta(f.VCPUs, n.InspectionData.Inventory.CPU.Count)`. -/
def cpuDelta (f : Flavor) : ℚ := calcDelta f.vcpus n.inspectionData.cpuCount

/-- A flavor within the initial thresholds of all three comparisons. -/
def WithinBounds (f : Flavor) : Prop :=
  ramDelta calcDelta n f ≤ float01 ∧ diskDelta calcDelta n f ≤ float02 ∧
    cpuDelta calcDelta n f ≤ float01

end

/-- The loop variables of the page handler: the three thresholds, and the flavor whose name the
    loop last wrote into `name` and `n.ResourceClass`. -/
structure MatchState where
  ram : ℚ
  disk : ℚ
  cpu : ℚ
  chosen : Option Flavor

/-- The thresholds as every page starts them. -/
def MatchState.init : MatchState := ⟨float01, float02, float01, none⟩

/-- One iteration of the loop over a page's flavors. -/
def matchStep (calcDelta : Int → Int → ℚ) (n : IronicNode) (st : MatchState) (f : Flavor) :
    MatchState :=
  if ramDelta calcDelta n f > st.ram then st
  else if diskDelta calcDelta n f > st.disk then { st with ram := ramDelta calcDelta n f }
  else if cpuDelta calcDelta n f > st.cpu then
    { st with ram := ramDelta calcDelta n f, disk := diskDelta calcDelta n f }
  else ⟨ramDelta calcDelta n f, diskDelta calcDelta n f, cpuDelta calcDelta n f, some f⟩

/-- The page handler: fresh thresholds, the loop, then false, which ends the paging. -/
def matchingFlavorHandler (calcDelta : Int → Int → ℚ) :
    String × IronicNode → List Flavor → (String × IronicNode) × Except GoError Bool
  | (name, n), fs =>
    match (fs.foldl (matchStep calcDelta n) .init).chosen with
    | some f => ((f.name, { n with resourceClass := f.name }), .ok false)
    | none => ((name, n), .ok false)

/-- `Client.getMatchingFlavorFor`: the returned name, the returned error, and the node as the
    call leaves it. -/
def getMatchingFlavorFor (calcDelta : Int → Int → ℚ) (pages : List (Except GoError (List Flavor)))
    (n : IronicNode) : String × Option GoError × IronicNode :=
  match eachPage (matchingFlavorHandler calcDelta) ("", n) pages with
  | ((name, n'), err) => (name, err, n')

/-! ## One step of the loop -/

/-- What one iteration can do: keep the chosen flavor, or choose `f`, which then passed all three
    thresholds. -/
theorem matchStep_chosen (calcDelta : Int → Int → ℚ) (n : IronicNode) (st : MatchState)
    (f : Flavor) :
    (matchStep calcDelta n st f).chosen = st.chosen ∨
      ((matchStep calcDelta n st f).chosen = some f ∧ ramDelta calcDelta n f ≤ st.ram ∧
        diskDelta calcDelta n f ≤ st.disk ∧ cpuDelta calcDelta n f ≤ st.cpu) := by
  unfold matchStep
  split_ifs with h1 h2 h3 <;> simp_all [not_lt]

theorem matchStep_le (calcDelta : Int → Int → ℚ) (n : IronicNode) (st : MatchState) (f : Flavor) :
    (matchStep calcDelta n st f).ram ≤ st.ram ∧ (matchStep calcDelta n st f).disk ≤ st.disk ∧
      (matchStep calcDelta n st f).cpu ≤ st.cpu := by
  unfold matchStep
  split_ifs <;> simp_all [not_lt]

section
variable {calcDelta : Int → Int → ℚ} {n : IronicNode} {st : MatchState} {f : Flavor}

theorem matchStep_ram_le_ramDelta :
    (matchStep calcDelta n st f).ram ≤ ramDelta calcDelta n f := by
  unfold matchStep
  split_ifs with h1 <;> simp_all [le_of_lt]

theorem matchStep_of_lt (h : st.ram < ramDelta calcDelta n f) : matchStep calcDelta n st f = st :=
  if_pos h

theorem matchStep_of_le (hr : ramDelta calcDelta n f ≤ st.ram)
    (hd : diskDelta calcDelta n f ≤ st.disk) (hc : cpuDelta calcDelta n f ≤ st.cpu) :
    (matchStep calcDelta n st f).chosen = some f := by
  simp [matchStep, not_lt.2 hr, not_lt.2 hd, not_lt.2 hc]

theorem matchStep_chosen_isSome (h : st.chosen.isSome) :
    (matchStep calcDelta n st f).chosen.isSome := by
  rcases matchStep_chosen calcDelta n st f with h' | ⟨h', -⟩
  <;> simp [h', h]

end

/-! ## The loop over a page -/

section
variable {calcDelta : Int → Int → ℚ} {n : IronicNode}

theorem foldl_matchStep_le (calcDelta : Int → Int → ℚ) (n : IronicNode) (fs : List Flavor)
    (st : MatchState) :
    (fs.foldl (matchStep calcDelta n) st).ram ≤ st.ram ∧
      (fs.foldl (matchStep calcDelta n) st).disk ≤ st.disk ∧
      (fs.foldl (matchStep calcDelta n) st).cpu ≤ st.cpu := by
  induction fs generalizing st with
  | nil => simp
  | cons f fs ih =>
    obtain ⟨h1, h2, h3⟩ := ih (matchStep calcDelta n st f)
    obtain ⟨g1, g2, g3⟩ := matchStep_le calcDelta n st f
    exact ⟨h1.trans g1, h2.trans g2, h3.trans g3⟩

theorem foldl_matchStep_ram_le_ramDelta (fs : List Flavor) (st : MatchState) :
    ∀ g ∈ fs, (fs.foldl (matchStep calcDelta n) st).ram ≤ ramDelta calcDelta n g := by
  induction fs generalizing st with
  | nil => simp
  | cons f fs ih =>
    intro g hg
    rcases List.mem_cons.1 hg with rfl | hg
    · exact (foldl_matchStep_le calcDelta n fs _).1.trans matchStep_ram_le_ramDelta
    · exact ih _ g hg

theorem foldl_matchStep_of_lt (fs : List Flavor) (st : MatchState)
    (h : ∀ g ∈ fs, st.ram < ramDelta calcDelta n g) : fs.foldl (matchStep calcDelta n) st = st := by
  induction fs with
  | nil => rfl
  | cons f fs ih =>
    rw [List.foldl_cons, matchStep_of_lt (h f (List.mem_cons_self ..))]
    exact ih fun g hg => h g (List.mem_cons_of_mem _ hg)

theorem foldl_matchStep_isSome (fs : List Flavor) (st : MatchState) (h : st.chosen.isSome) :
    (fs.foldl (matchStep calcDelta n) st).chosen.isSome := by
  induction fs generalizing st with
  | nil => exact h
  | cons f fs ih => exact ih _ (matchStep_chosen_isSome h)

/-- The flavor a page ends with was chosen at some position of the page, within the thresholds
    the flavors before it had left. -/
theorem foldl_matchStep_chosen (fs : List Flavor) (st : MatchState) (f : Flavor)
    (h0 : st.chosen = none) (h : (fs.foldl (matchStep calcDelta n) st).chosen = some f) :
    ∃ pre post, fs = pre ++ f :: post ∧
      ramDelta calcDelta n f ≤ (pre.foldl (matchStep calcDelta n) st).ram ∧
      diskDelta calcDelta n f ≤ (pre.foldl (matchStep calcDelta n) st).disk ∧
      cpuDelta calcDelta n f ≤ (pre.foldl (matchStep calcDelta n) st).cpu := by
  induction fs using List.reverseRecOn with
  | nil => simp [h0] at h
  | append_singleton xs x ih =>
    rw [List.foldl_append, List.foldl_cons, List.foldl_nil] at h
    rcases matchStep_chosen calcDelta n (xs.foldl (matchStep calcDelta n) st) x with
      hc | ⟨hc, hbounds⟩
    · obtain ⟨pre, post, rfl, hpre⟩ := ih (hc ▸ h)
      exact ⟨pre, post ++ [x], by simp, hpre⟩
    · obtain rfl : x = f := Option.some.inj (hc.symm.trans h)
      exact ⟨xs, [], by simp, hbounds⟩

theorem foldl_matchStep_init_chosen (calcDelta : Int → Int → ℚ) (n : IronicNode) (fs : List Flavor)
    (f : Flavor)
    (h : (fs.foldl (matchStep calcDelta n) .init).chosen = some f) :
    f ∈ fs ∧ WithinBounds calcDelta n f := by
  obtain ⟨pre, post, rfl, hr, hd, hc⟩ := foldl_matchStep_chosen _ _ f rfl h
  obtain ⟨h1, h2, h3⟩ := foldl_matchStep_le calcDelta n pre .init
  exact ⟨by simp, hr.trans h1, hd.trans h2, hc.trans h3⟩

end

/-! ## `getMatchingFlavorFor` on one page -/

theorem getMatchingFlavorFor_single (calcDelta : Int → Int → ℚ) (fs : List Flavor)
    (n : IronicNode) :
    getMatchingFlavorFor calcDelta [.ok fs] n =
      match (fs.foldl (matchStep calcDelta n) .init).chosen with
      | some f => (f.name, none, { n with resourceClass := f.name })
      | none => ("", none, n) := by
  cases fs with
  | nil => rfl
  | cons f fs =>
    cases h : ((f :: fs).foldl (matchStep calcDelta n) .init).chosen <;>
      simp only [getMatchingFlavorFor, eachPage, matchingFlavorHandler, h]

/-- The selected flavor is on the page and within the initial thresholds, and a first flavor to
    pass the RAM threshold that is within all three makes the selection non-empty. -/
theorem getMatchingFlavorFor_within_bounds (calcDelta : Int → Int → ℚ) (fs : List Flavor)
    (n : IronicNode) :
    (getMatchingFlavorFor calcDelta [.ok fs] n = ("", none, n) ∨
      ∃ f ∈ fs, WithinBounds calcDelta n f ∧
        getMatchingFlavorFor calcDelta [.ok fs] n =
          (f.name, none, { n with resourceClass := f.name })) ∧
    ∀ pre f post, fs = pre ++ f :: post → (∀ g ∈ pre, float01 < ramDelta calcDelta n g) →
      WithinBounds calcDelta n f →
      ∃ g ∈ fs, WithinBounds calcDelta n g ∧
        getMatchingFlavorFor calcDelta [.ok fs] n =
          (g.name, none, { n with resourceClass := g.name }) := by
  rw [getMatchingFlavorFor_single]
  have hspec := foldl_matchStep_init_chosen calcDelta n fs
  refine ⟨?_, fun pre f post hfs hpre hf => ?_⟩
  · cases h : (fs.foldl (matchStep calcDelta n) .init).chosen with
    | none => exact .inl rfl
    | some g => exact .inr ⟨g, (hspec g h).1, (hspec g h).2, rfl⟩
  · have hf' : (matchStep calcDelta n .init f).chosen = some f :=
      matchStep_of_le hf.1 hf.2.1 hf.2.2
    have hsome : (fs.foldl (matchStep calcDelta n) .init).chosen.isSome := by
      rw [hfs, List.foldl_append, foldl_matchStep_of_lt pre .init hpre, List.foldl_cons]
      exact foldl_matchStep_isSome post _ (by rw [hf']; rfl)
    obtain ⟨g, hg⟩ := Option.isSome_iff_exists.1 hsome
    simp only [hg]
    exact ⟨g, (hspec g hg).1, (hspec g hg).2, rfl⟩

/-- A flavor within all three initial thresholds can go unselected: the flavor before it passed
    the RAM check, lowered the RAM threshold, and failed the disk check. -/
theorem getMatchingFlavorFor_misses_within_bounds :
    WithinBounds (fun c _ => (c : ℚ) / 100) {} { name := "B", ram := 8 } ∧
      getMatchingFlavorFor (fun c _ => (c : ℚ) / 100)
        [.ok [{ name := "A", ram := 5, disk := 50 }, { name := "B", ram := 8 }]] {} =
        ("", none, {}) := by
  refine ⟨?_, ?_⟩
  · norm_num [WithinBounds, ramDelta, diskDelta, cpuDelta, float01, float02]
  · rw [getMatchingFlavorFor_single]
    norm_num [matchStep, ramDelta, diskDelta, cpuDelta, MatchState.init, float01, float02]

/-- The flavor `getMatchingFlavorFor` selects on a page has a RAM delta no larger than that of
    any flavor before it, so no flavor before it is better in all three deltas. -/
theorem getMatchingFlavorFor_ram_le_earlier (calcDelta : Int → Int → ℚ) (fs : List Flavor)
    (n : IronicNode) :
    getMatchingFlavorFor calcDelta [.ok fs] n = ("", none, n) ∨
      ∃ pre f post, fs = pre ++ f :: post ∧
        getMatchingFlavorFor calcDelta [.ok fs] n =
          (f.name, none, { n with resourceClass := f.name }) ∧
        ∀ g ∈ pre, ramDelta calcDelta n f ≤ ramDelta calcDelta n g := by
  rw [getMatchingFlavorFor_single]
  cases h : (fs.foldl (matchStep calcDelta n) .init).chosen with
  | none => exact .inl rfl
  | some f =>
    obtain ⟨pre, post, hfs, hr, -⟩ := foldl_matchStep_chosen fs _ f rfl h
    exact .inr ⟨pre, f, post, hfs, rfl,
      fun g hg => hr.trans (foldl_matchStep_ram_le_ramDelta pre _ g hg)⟩

/-- A flavor after the selected one can be better in all three deltas and still go unselected:
    the flavor between them lowered the RAM threshold and then failed the disk check. -/
theorem getMatchingFlavorFor_later_flavor_better :
    getMatchingFlavorFor (fun c _ => (c : ℚ) / 100)
        [.ok [{ name := "A", ram := 5, disk := 10, vcpus := 5 }, { name := "H", ram := 1, disk := 50 },
          { name := "G", ram := 4, disk := 5, vcpus := 1 }]] {} =
        ("A", none, { resourceClass := "A" }) ∧
      ramDelta (fun c _ => (c : ℚ) / 100) {} { name := "G", ram := 4, disk := 5, vcpus := 1 } <
        ramDelta (fun c _ => (c : ℚ) / 100) {} { name := "A", ram := 5, disk := 10, vcpus := 5 } ∧
      diskDelta (fun c _ => (c : ℚ) / 100) {} { name := "G", ram := 4, disk := 5, vcpus := 1 } <
        diskDelta (fun c _ => (c : ℚ) / 100) {} { name := "A", ram := 5, disk := 10, vcpus := 5 } ∧
      cpuDelta (fun c _ => (c : ℚ) / 100) {} { name := "G", ram := 4, disk := 5, vcpus := 1 } <
        cpuDelta (fun c _ => (c : ℚ) / 100) {} { name := "A", ram := 5, disk := 10, vcpus := 5 } := by
  rw [getMatchingFlavorFor_single]
  norm_num [matchStep, ramDelta, diskDelta, cpuDelta, MatchState.init, float01, float02]

/-! ## Pages after the first -/

/-- `getMatchingFlavorFor` sees the first page only, since its handler always answers false. -/
theorem getMatchingFlavorFor_first_page (calcDelta : Int → Int → ℚ) (fs : List Flavor)
    (rest : List (Except GoError (List Flavor))) (n : IronicNode) :
    getMatchingFlavorFor calcDelta (.ok fs :: rest) n = getMatchingFlavorFor calcDelta [.ok fs] n := by
  unfold getMatchingFlavorFor
  rw [eachPage_of_stop]
  rintro ⟨name, n⟩ items
  simp only [matchingFlavorHandler]
  split <;> rfl

/-- Split over two pages, a listing whose only match is on the second page selects nothing, while
    the same listing on one page selects the match. -/
theorem getMatchingFlavorFor_paged_differs :
    getMatchingFlavorFor (fun c _ => (c : ℚ) / 100)
        [.ok [{ name := "A", ram := 50 }], .ok [{ name := "B" }]] {} = ("", none, {}) ∧
      getMatchingFlavorFor (fun c _ => (c : ℚ) / 100)
        [.ok [{ name := "A", ram := 50 }, { name := "B" }]] {} =
        ("B", none, { resourceClass := "B" }) := by
  rw [getMatchingFlavorFor_first_page, getMatchingFlavorFor_single, getMatchingFlavorFor_single]
  norm_num [matchStep, ramDelta, diskDelta, cpuDelta, MatchState.init, float01, float02]

/-- Over any paged listing: the empty name and the node as it was, or a flavor of the first page
    within the initial thresholds, written into `n.ResourceClass`. -/
theorem getMatchingFlavorFor_result (calcDelta : Int → Int → ℚ)
    (pages : List (Except GoError (List Flavor))) (n : IronicNode) :
    (∃ err, getMatchingFlavorFor calcDelta pages n = ("", err, n)) ∨
      ∃ fs rest, pages = .ok fs :: rest ∧ ∃ f ∈ fs, WithinBounds calcDelta n f ∧
        getMatchingFlavorFor calcDelta pages n = (f.name, none, { n with resourceClass := f.name }) := by
  match pages with
  | [] => exact .inl ⟨none, rfl⟩
  | .error e :: rest => exact .inl ⟨some e, rfl⟩
  | .ok fs :: rest =>
    rw [getMatchingFlavorFor_first_page, getMatchingFlavorFor_single]
    cases h : (fs.foldl (matchStep calcDelta n) .init).chosen with
    | none => exact .inl ⟨none, rfl⟩
    | some f =>
      obtain ⟨hf, hb⟩ := foldl_matchStep_init_chosen calcDelta n fs f h
      exact .inr ⟨fs, rest, rfl, f, hf, hb, rfl⟩

end IronicTemper
