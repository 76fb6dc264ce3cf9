import Welfare.Json.Basic
import Welfare.Text.Blank
import Welfare.Text.Numeral
import Welfare.Text.Split

/-!
# Citizen profiles

A profile is a free-form record about one citizen.  Its attributes may be grouped into a fixed
number of categories, and rules name attributes either by their full path
(`occupation.monthly_income`) or by their bare name (`monthly_income`).

* `Category` — the groups, in the order in which they are scanned for a bare name.
* `Field` — a reference to an attribute: a path of segments separated by dots.
* `Profile.resolve` — the value a field refers to: what the path leads to or, for a bare name that
  leads nowhere, what the first category holds under it.
* `Profile.citizenId`, `Profile.fullName` — who the citizen is.
-/

set_option autoImplicit false

namespace Welfare

/-! ## Categories -/

/-- A group of attributes inside a profile. -/
inductive Category where
  | personalInfo
  | location
  | occupation
  | farmerDetails
  | financial
  | social
  | family
  | housing
  | documents
  | exclusions
  | digital
deriving DecidableEq, Repr

namespace Category

/-- The categories in the order in which they are scanned. -/
def all : List Category :=
  [.personalInfo, .location, .occupation, .farmerDetails, .financial, .social, .family, .housing,
   .documents, .exclusions, .digital]

/-- The key under which a profile holds a category. -/
def key : Category → String
  | .personalInfo => "personal_info"
  | .location => "location"
  | .occupation => "occupation"
  | .farmerDetails => "farmer_details"
  | .financial => "financial"
  | .social => "social"
  | .family => "family"
  | .housing => "housing"
  | .documents => "documents"
  | .exclusions => "exclusions"
  | .digital => "digital"

/-- The category with a key. -/
def ofKey? (key : String) : Option Category :=
  all.find? (·.key == key)

/-- The place of a category in the order of scanning. -/
def position (c : Category) : Nat := all.idxOf c

theorem mem_all (c : Category) : c ∈ all := by cases c <;> decide

theorem key_of_ofKey? {key : String} {c : Category} (h : ofKey? key = some c) : c.key = key := by
  simpa using List.find?_some h

theorem ofKey?_key (c : Category) : ofKey? c.key = some c := by cases c <;> decide

theorem dot_notMem_key (c : Category) : '.' ∉ c.key.toList := by cases c <;> decide

end Category

/-! ## Fields -/

/-- A reference to an attribute of a profile. -/
structure Field where
  path : String
deriving DecidableEq, Repr

namespace Field

/-- The segments between the dots. -/
def segments (f : Field) : List String :=
  (Text.split '.' f.path.toList).map String.ofList

/-- A bare name has no dot. -/
def isBare (f : Field) : Bool :=
  !f.path.toList.contains '.'

/-- The category that the first segment of a path names; a bare name has none. -/
def category (f : Field) : Option Category :=
  if f.isBare then none else f.segments.head?.bind Category.ofKey?

/-- The text before the first dot names the category. -/
theorem category_of_path {f : Field} {front back : List Char}
    (hpath : f.path.toList = front ++ '.' :: back) (hfront : '.' ∉ front) :
    f.category = Category.ofKey? (String.ofList front) := by
  have hbare : f.isBare = false := by simp [isBare, hpath]
  rw [category, hbare, segments, hpath, Text.split_append_cons, Text.split_eq_singleton hfront]
  rfl

/-- A path names a category when it goes through the key of the category. -/
theorem category_eq_some_iff {f : Field} {c : Category} :
    f.category = some c ↔ c.key.toList ++ ['.'] <+: f.path.toList := by
  constructor
  · intro h
    by_cases hdot : '.' ∈ f.path.toList
    · obtain ⟨front, back, hpath, hfront⟩ := List.eq_append_cons_of_mem hdot
      rw [category_of_path hpath hfront] at h
      rw [Category.key_of_ofKey? h, hpath]
      exact ⟨back, by simp⟩
    · simp [category, isBare, hdot] at h
  · rintro ⟨back, hpath⟩
    rw [category_of_path (by simpa using hpath.symm) c.dot_notMem_key, String.ofList_toList,
      Category.ofKey?_key]

end Field

/-! ## Profiles -/

/-- What is on record about one citizen. -/
structure Profile where
  record : Json

namespace Profile

/-- The index of a list item: a numeral of 64 bits. -/
def index? (segment : String) : Option Nat :=
  Text.numeral? 0x10000000000000000 segment

/-- One step into a value: to a member by key, or to a list item by index. -/
def step (v : Json) (segment : String) : Option Json :=
  match v with
  | .obj members => members.lookup segment
  | .arr items => (index? segment).bind (items[·]?)
  | _ => none

/-- Where a path of segments leads. -/
def traverse (v : Json) (segments : List String) : Option Json :=
  segments.foldlM step v

/-- What the first category that has the name holds under it. -/
def scan (p : Profile) (name : String) : Option Json :=
  Category.all.findSome? fun c => (p.record.get? c.key).bind (·.get? name)

/-- The value a field refers to. -/
def resolve (p : Profile) (f : Field) : Option Json :=
  match traverse p.record f.segments with
  | some v => some v
  | none => if f.isBare then p.scan f.path else none

/-- The citizen's id, when it is a text. -/
def citizenId (p : Profile) : Option String :=
  (p.resolve ⟨"citizen_id"⟩).bind Json.string?

/-- The citizen's name, when it is a text that is not blank. -/
def fullName (p : Profile) : Option String :=
  ((p.resolve ⟨"full_name"⟩).bind Json.string?).filter (!Text.isAllBlank ·)

end Profile

end Welfare
