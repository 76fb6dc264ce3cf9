import Welfare.Scheme
import Welfare.Profile

/-!
# Sample data

A citizen and three schemes, for demonstration.

* `Sample.profile` — the citizen.
* `Sample.schemes` — the schemes.
-/

set_option autoImplicit false

namespace Welfare.Sample

/-- The citizen. -/
def profile : Profile := ⟨.obj [
  ("age", .ofNat 45),
  ("citizen_id", .str "CIT001"),
  ("documents", .obj [
    ("aadhaar_card", .bool true),
    ("bank_passbook", .bool true),
    ("land_records", .bool true)]),
  ("exclusions", .obj [
    ("is_government_employee", .bool false),
    ("is_income_tax_payer", .bool false)]),
  ("farmer_details", .obj [
    ("land_area_acres", .ofFloat 1.5),
    ("land_ownership", .bool true)]),
  ("full_name", .str "Ramesh Kumar"),
  ("housing", .obj [("house_type", .str "Semi-pucca")]),
  ("location", .obj [
    ("area_type", .str "Rural"),
    ("district", .str "Barabanki"),
    ("state", .str "Uttar Pradesh")]),
  ("occupation", .obj [
    ("is_bpl", .bool true),
    ("monthly_income", .ofNat 8000),
    ("primary_occupation", .str "Farmer")]),
  ("social", .obj [("caste_category", .str "OBC")])]⟩

/-- An inclusion rule. -/
def includes (field : String) (operator : Operator) (value : Json) (weight : Float)
    (explanation : String) : Rule :=
  { field := ⟨field⟩, operator, value, weight := some weight, explanation }

/-- A scheme with nothing but rules. -/
def scheme (id name : String) (rules : RuleSet) : Scheme :=
  { id, name, criteria := some { rules := some rules } }

/-- Income support for farmers. -/
def farmers : Scheme :=
  { scheme "SCH001" "PM-KISAN" {
      minimumScore := some 20.0
      exclusion := [
        { field := ⟨"exclusions.is_government_employee"⟩, operator := .equals, value := .bool true
          explanation := "Government employees are excluded" }]
      inclusion := [
        includes "occupation.primary_occupation" .equals (.str "Farmer") 15.0
          "Primary occupation must be farming",
        includes "farmer_details.land_ownership" .equals (.bool true) 10.0
          "Must own cultivable land"]
      priority := [
        { field := ⟨"social.caste_category"⟩, operator := .oneOf
          value := .arr [.str "SC", .str "ST"], priorityBoost := some 5.0
          explanation := "Priority for SC/ST farmers" }] } with
    metadata := [
      ("application_process", .obj [
        ("offline", .str "Visit the nearest CSC"),
        ("online", .str "https://pmkisan.gov.in")]),
      ("scheme_name_hindi", .str "प्रधानमंत्री किसान सम्मान निधि")] }

/-- Rural housing. -/
def housing : Scheme :=
  scheme "SCH003" "PMAY-G" {
    minimumScore := some 15.0
    inclusion := [
      includes "location.area_type" .equals (.str "Rural") 10.0 "Must reside in a rural area",
      includes "housing.house_type" .oneOf (.arr [.str "Kutcha", .str "Semi-pucca"]) 10.0
        "Must have kutcha or semi-pucca house",
      includes "documents.bpl_card" .equals (.bool true) 0.0 "BPL card required"] }

/-- Pensions for unorganised workers. -/
def pensions : Scheme :=
  scheme "SCH004" "PM-SYM" {
    minimumScore := some 25.0
    inclusion := [
      includes "occupation.employment_type" .equals (.str "Unorganised") 10.0
        "Must be an unorganised worker",
      includes "age" .between (.arr [.ofNat 18, .ofNat 40]) 10.0
        "Age must be between 18 and 40",
      includes "occupation.monthly_income" .lessThan (.ofNat 15000) 5.0
        "Monthly income must be below 15000"] }

/-- The schemes. -/
def schemes : List Scheme := [farmers, housing, pensions]

end Welfare.Sample
