import Mathlib.Data.List.Nodup

set_option autoImplicit false

namespace CbcExplorer

structure RuntimeVersionRecord where
  name : String
  specVersion : Int
  blockNum : Int
  modules : String
  rawData : String
  deriving DecidableEq, Repr

/-- Modelled from the spec: the Runtime Store behind `dao.IDao`, its rows in insertion order. -/
structure Store where
  rows : List RuntimeVersionRecord
  deriving DecidableEq, Repr

namespace Store

def empty : Store := ⟨[]⟩

def later : Option RuntimeVersionRecord → RuntimeVersionRecord → Option RuntimeVersionRecord
  | some best, r => if best.specVersion < r.specVersion then some r else some best
  | none, r => some r

/-- Modelled from the spec: `dao.RuntimeVersionRecent`, the record of the highest spec version. -/
def runtimeVersionRecent (s : Store) : Option RuntimeVersionRecord := s.rows.foldl later none

/-- Modelled from the spec: `dao.CreateRuntimeVersion`, a first-or-create keyed by spec
version that leaves the metadata columns empty; it returns the rows affected. -/
def createRuntimeVersion (s : Store) (name : String) (specVersion blockNum : Int) : Nat × Store :=
  if s.rows.any (·.specVersion == specVersion) then (0, s)
  else (1, ⟨s.rows ++ [⟨name, specVersion, blockNum, "", ""⟩]⟩)

/-- Modelled from the spec: `dao.SetRuntimeData`, which overwrites the modules and the raw
metadata of the spec version's row; it returns the rows affected. -/
def setRuntimeData (s : Store) (specVersion : Int) (modules rawData : String) : Nat × Store :=
  (s.rows.countP (·.specVersion == specVersion),
    ⟨s.rows.map fun r =>
      if r.specVersion = specVersion then { r with modules := modules, rawData := rawData } else r⟩)

variable {s : Store} {r : RuntimeVersionRecord}

theorem foldl_later_mem (rows : List RuntimeVersionRecord) (start : Option RuntimeVersionRecord)
    (picked : rows.foldl later start = some r) : r ∈ rows ∨ start = some r := by
  induction rows generalizing start with
  | nil => exact .inr picked
  | cons row rows ih =>
    rcases ih _ picked with member | first
    · exact .inl (List.mem_cons_of_mem _ member)
    · cases start <;> simp only [later] at first <;> (try split at first) <;>
        simp_all

theorem runtimeVersionRecent_mem (recent : s.runtimeVersionRecent = some r) : r ∈ s.rows :=
  (foldl_later_mem s.rows none recent).resolve_right nofun

@[simp] theorem runtimeVersionRecent_singleton : (⟨[r]⟩ : Store).runtimeVersionRecent = some r :=
  rfl

@[simp] theorem empty_rows : empty.rows = [] := rfl

theorem later_ge {start : Option RuntimeVersionRecord} {row best : RuntimeVersionRecord}
    (kept : later start row = some best) :
    (∀ b, start = some b → b.specVersion ≤ best.specVersion) ∧ row.specVersion ≤ best.specVersion := by
  cases start with
  | none => cases kept; simp
  | some b =>
    simp only [later] at kept
    split at kept <;> cases kept <;> simp <;> omega

theorem foldl_later_max (rows : List RuntimeVersionRecord) (start : Option RuntimeVersionRecord)
    (picked : rows.foldl later start = some r) :
    (∀ b, start = some b → b.specVersion ≤ r.specVersion) ∧
      ∀ r' ∈ rows, r'.specVersion ≤ r.specVersion := by
  induction rows generalizing start with
  | nil => exact ⟨fun b first => by simp_all, by simp⟩
  | cons row rows ih =>
    obtain ⟨best, kept⟩ : ∃ best, later start row = some best := by
      cases start <;> simp only [later] <;> (try split) <;> simp
    obtain ⟨earlier, newer⟩ := later_ge kept
    obtain ⟨first, rest⟩ := ih _ picked
    have bound := first best kept
    refine ⟨fun b start_eq => Int.le_trans (earlier b start_eq) bound, ?_⟩
    simp only [List.mem_cons, forall_eq_or_imp]
    exact ⟨Int.le_trans newer bound, rest⟩

theorem runtimeVersionRecent_max (recent : s.runtimeVersionRecent = some r) {r' : RuntimeVersionRecord}
    (member : r' ∈ s.rows) : r'.specVersion ≤ r.specVersion :=
  (foldl_later_max s.rows none recent).2 r' member

def Keyed (s : Store) : Prop := (s.rows.map (·.specVersion)).Nodup

instance : DecidablePred Keyed := fun _ => List.nodupDecidable _

theorem keyed_empty : empty.Keyed := List.nodup_nil

theorem Keyed.createRuntimeVersion (keyed : s.Keyed) (name : String) (v b : Int) :
    (s.createRuntimeVersion name v b).2.Keyed := by
  unfold Store.createRuntimeVersion
  split
  · exact keyed
  · next absent =>
    simp only [Keyed, List.map_append, List.map_cons, List.map_nil]
    refine List.nodup_append.mpr ⟨keyed, List.nodup_singleton _, ?_⟩
    simpa [List.disjoint_singleton, List.any_eq_true] using absent

theorem Keyed.setRuntimeData (keyed : s.Keyed) (v : Int) (m d : String) :
    (s.setRuntimeData v m d).2.Keyed := by
  have same : (s.setRuntimeData v m d).2.rows.map (·.specVersion) = s.rows.map (·.specVersion) := by
    simp only [Store.setRuntimeData, List.map_map]
    exact List.map_congr_left fun r _ => by simp only [Function.comp_apply]; split <;> rfl
  unfold Keyed
  rwa [same]

theorem Keyed.recent_unique (keyed : s.Keyed) (recent : s.runtimeVersionRecent = some r)
    {r' : RuntimeVersionRecord} (member : r' ∈ s.rows) (same : r'.specVersion = r.specVersion) :
    r' = r :=
  List.inj_on_of_nodup_map keyed member (runtimeVersionRecent_mem recent) same

theorem setRuntimeData_row {v : Int} {m d : String}
    (member : r ∈ (s.setRuntimeData v m d).2.rows) (version : r.specVersion = v) :
    r.modules = m ∧ r.rawData = d := by
  simp only [setRuntimeData, List.mem_map] at member
  obtain ⟨r', -, rfl⟩ := member
  split <;> simp_all

end Store

end CbcExplorer
