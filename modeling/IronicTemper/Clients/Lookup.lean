import IronicTemper.GoLibrary

set_option autoImplicit false

/-! # Lookups by name over a paged listing

`getImageID`, `getFlavorID` and `getConductorZone` hand each page to the same loop, whose first
match sets the result, and differ in what the handler answers `EachPage`: `getImageID` stops after
a match and goes on after a page without one, the other two the other way round. So `getImageID`
returns the first match of the whole listing however it is paged (`getImageID_eq_firstMatch`),
while `getFlavorID` reads pages only while each has a match (`getFlavorID_eq_takeWhile`).
`services.List` is a single-page pager, so `getConductorZone` sees one page. -/

namespace IronicTemper

/-- An entry of a compute listing, by the two fields a lookup reads: the one compared with the
    name (`Image.Name`, `Flavor.Name`, `Service.Host`) and the one returned (`Image.ID`,
    `Flavor.ID`, `Service.Zone`). -/
structure ListingEntry where
  key : String
  value : String
  deriving DecidableEq, Repr

/-- The page handler of the three lookups: the first entry of the page whose key is `name` sets
    the result, and the handler answers `onMatch`; a page without one answers `onMiss`. -/
def lookupHandler (onMatch onMiss : Bool) (name : String) (id : String)
    (page : List ListingEntry) : String × Except GoError Bool :=
  match page.find? (·.key == name) with
  | some e => (e.value, .ok onMatch)
  | none => (id, .ok onMiss)

/-- `Client.getImageID`: stop after a match, go on after a page without one. -/
def getImageID (name : String) (pages : List (Except GoError (List ListingEntry))) :
    String × Option GoError :=
  eachPage (lookupHandler false true name) "" pages

/-- `Client.getFlavorID`: go on after a match, stop after a page without one. -/
def getFlavorID (name : String) (pages : List (Except GoError (List ListingEntry))) :
    String × Option GoError :=
  eachPage (lookupHandler true false name) "" pages

/-- `Client.getConductorZone`: go on after a match, stop after a page without one. `services.List`
    returns a `SinglePageBase` pager, whose `EachPage` hands the handler the one page the service
    answers. -/
def getConductorZone (name : String) (page : Except GoError (List ListingEntry)) :
    String × Option GoError :=
  eachPage (lookupHandler true false name) "" [page]

/-- The value of the first entry of the whole listing whose key is `name`, or the empty string
    when there is none: the answer a lookup by name is to give. -/
def firstMatch (name : String) (entries : List ListingEntry) : String :=
  ((entries.find? (·.key == name)).map (·.value)).getD ""

/-! ## The two handler answers -/

theorem eachPage_lookupHandler_false_true (name s : String) (pages : List (List ListingEntry))
    (hne : ∀ p ∈ pages, p ≠ []) :
    eachPage (lookupHandler false true name) s (pages.map .ok) =
      (((pages.flatten.find? (·.key == name)).map (·.value)).getD s, none) := by
  induction pages with
  | nil => rfl
  | cons p ps ih =>
    obtain ⟨e, es, rfl⟩ := List.exists_cons_of_ne_nil (hne _ (List.mem_cons_self _ _))
    simp only [List.map_cons, eachPage, lookupHandler, List.flatten_cons, List.find?_append]
    cases h : (e :: es).find? (·.key == name) with
    | some x => rfl
    | none => simpa using ih fun q hq => hne q (List.mem_cons_of_mem _ hq)

theorem eachPage_lookupHandler_true_false (name s : String) (pages : List (List ListingEntry))
    (hne : ∀ p ∈ pages, p ≠ []) :
    eachPage (lookupHandler true false name) s (pages.map .ok) =
      ((pages.takeWhile (·.any (·.key == name))).foldl
        (fun id p => ((p.find? (·.key == name)).map (·.value)).getD id) s, none) := by
  induction pages generalizing s with
  | nil => rfl
  | cons p ps ih =>
    obtain ⟨e, es, rfl⟩ := List.exists_cons_of_ne_nil (hne _ (List.mem_cons_self _ _))
    simp only [List.map_cons, eachPage, lookupHandler]
    cases h : (e :: es).find? (·.key == name) with
    | some x =>
      have hany : (e :: es).any (·.key == name) = true := by
        have hx := List.find?_some h
        exact List.any_eq_true.2 ⟨x, List.mem_of_find?_eq_some h, hx⟩
      simp only [List.takeWhile_cons, hany, if_true, List.foldl_cons, h, Option.map_some',
        Option.getD_some]
      exact ih x.value fun q hq => hne q (List.mem_cons_of_mem _ hq)
    | none =>
      have hany : (e :: es).any (·.key == name) = false := by
        simpa [List.find?_eq_none] using h
      simp [List.takeWhile_cons, hany]

/-- `getImageID` returns the first match of the listing, whatever its split into the non-empty
    pages `EachPage` delivers. -/
theorem getImageID_eq_firstMatch (name : String) (pages : List (List ListingEntry))
    (hne : ∀ p ∈ pages, p ≠ []) :
    getImageID name (pages.map .ok) = (firstMatch name pages.flatten, none) :=
  eachPage_lookupHandler_false_true name "" pages hne

theorem getImageID_eq_firstMatch_second_page :
    (∀ p ∈ [[(⟨"a", "1"⟩ : ListingEntry)], [⟨"x", "2"⟩]], p ≠ []) ∧
      getImageID "x" ([[⟨"a", "1"⟩], [⟨"x", "2"⟩]].map .ok) =
        (firstMatch "x" [[(⟨"a", "1"⟩ : ListingEntry)], [⟨"x", "2"⟩]].flatten, none) :=
  ⟨by decide, getImageID_eq_firstMatch "x" _ (by decide)⟩

theorem getConductorZone_eq_firstMatch (name : String) (entries : List ListingEntry) :
    getConductorZone name (.ok entries) = (firstMatch name entries, none) := by
  cases entries with
  | nil => rfl
  | cons e es =>
    simp only [getConductorZone, eachPage, lookupHandler, firstMatch]
    cases (e :: es).find? (·.key == name) <;> rfl

/-- `getFlavorID` reads pages only while each has a match, and returns the match of the last of
    them. -/
theorem getFlavorID_eq_takeWhile (name : String) (pages : List (List ListingEntry))
    (hne : ∀ p ∈ pages, p ≠ []) :
    getFlavorID name (pages.map .ok) =
      ((pages.takeWhile (·.any (·.key == name))).foldl
        (fun id p => ((p.find? (·.key == name)).map (·.value)).getD id) "", none) :=
  eachPage_lookupHandler_true_false name "" pages hne

theorem getFlavorID_eq_takeWhile_two_matches :
    (∀ p ∈ [[(⟨"x", "1"⟩ : ListingEntry)], [⟨"x", "2"⟩], [⟨"a", "3"⟩]],
        p ≠ []) ∧
      getFlavorID "x" ([[⟨"x", "1"⟩], [⟨"x", "2"⟩], [⟨"a", "3"⟩]].map .ok) =
        (([[(⟨"x", "1"⟩ : ListingEntry)], [⟨"x", "2"⟩], [⟨"a", "3"⟩]].takeWhile
          (·.any (·.key == "x"))).foldl
          (fun id p => ((p.find? (·.key == "x")).map (·.value)).getD id) "", none) :=
  ⟨by decide, getFlavorID_eq_takeWhile "x" _ (by decide)⟩

/-- One listing, split into pages in two ways: on one page both lookups return the first match,
    but split after its first entry `getFlavorID` misses the match on the second page, and with a
    match on each page it returns the second, where `getImageID` returns the first. -/
theorem lookups_depend_on_page_split :
    getFlavorID "x" [.ok [⟨"a", "1"⟩, ⟨"x", "2"⟩]] = ("2", none) ∧
    getImageID "x" [.ok [⟨"a", "1"⟩], .ok [⟨"x", "2"⟩]] = ("2", none) ∧
    getFlavorID "x" [.ok [⟨"a", "1"⟩], .ok [⟨"x", "2"⟩]] = ("", none) ∧
    firstMatch "x" [⟨"x", "1"⟩, ⟨"x", "2"⟩] = "1" ∧
    getImageID "x" [.ok [⟨"x", "1"⟩], .ok [⟨"x", "2"⟩]] = ("1", none) ∧
    getFlavorID "x" [.ok [⟨"x", "1"⟩], .ok [⟨"x", "2"⟩]] = ("2", none) := by
  decide

end IronicTemper
