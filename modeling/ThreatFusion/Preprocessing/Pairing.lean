import ThreatFusion.Preprocessing.SourceJoin
import Mathlib.Algebra.GroupWithZero.Nat
/-
# One record for each source row

A turn of the join takes the next row of the archive for the next row of the source and counts both
(`joinRow_ok`). So the records pair the two sequences from their first rows on, over the borders of the files
(`joinFiles_pairs`), whatever ends the run; and a run that ends without an exception has used up both
(`joinFiles_ok`).
-/
namespace ThreatFusion.Preprocessing
open Py

/-! ## Pairs -/

def idOf (assignmentRow : List String) : Option ℤ := assignmentRow.head?.bind parseInt

section
variable {φ : Type} (adaptUnswRow : Row → Except AdapterFault φ)

/-- The record with number `n`, of a row and of an assignment with that number. -/
structure Paired (n : Nat) (row : Row) (assignmentRow : List String) (record : AssignedRecord φ) : Prop where
  recordId : record.recordId = n
  id : idOf assignmentRow = some (n : ℤ)
  disposition : assignmentRow[2]? = some record.disposition.text
  flow : adaptForAssignment adaptUnswRow row = .ok record.flow
  accepted : record.flow = none ↔ record.disposition = .rejected

/-- Records of the first rows and the first assignments; the first of them has number `n`. -/
inductive Pairs : Nat → List Row → List (List String) → List (AssignedRecord φ) → Prop
  | nil (n : Nat) (rows : List Row) (assignments : List (List String)) : Pairs n rows assignments []
  | cons {n : Nat} {row : Row} {assignmentRow : List String} {record : AssignedRecord φ} {rows : List Row}
      {assignments : List (List String)} {records : List (AssignedRecord φ)}
      (first : Paired adaptUnswRow n row assignmentRow record) (rest : Pairs (n + 1) rows assignments records) :
      Pairs n (row :: rows) (assignmentRow :: assignments) (record :: records)

variable {adaptUnswRow}

theorem Pairs.extend {n : Nat} {rows : List Row} {assignments : List (List String)}
    {records : List (AssignedRecord φ)} (h : Pairs adaptUnswRow n rows assignments records) (more : List Row) :
    Pairs adaptUnswRow n (rows ++ more) assignments records := by
  induction h with
  | nil n rows assignments => exact .nil ..
  | cons first _ ih => exact .cons first ih

/-- What comes after rows that all have their records. -/
theorem Pairs.append {n : Nat} {rows more : List Row} {taken rest : List (List String)}
    {records others : List (AssignedRecord φ)} (h : Pairs adaptUnswRow n rows (taken ++ rest) records)
    (hrecords : records.length = rows.length) (htaken : taken.length = rows.length)
    (hmore : Pairs adaptUnswRow (n + rows.length) more rest others) :
    Pairs adaptUnswRow n (rows ++ more) (taken ++ rest) (records ++ others) := by
  induction rows generalizing n taken records with
  | nil =>
    obtain rfl := List.length_eq_zero_iff.mp hrecords
    obtain rfl := List.length_eq_zero_iff.mp htaken
    exact hmore
  | cons row rows ih =>
    cases taken with
    | nil => cases htaken
    | cons assignmentRow taken =>
      cases h with
      | nil => cases hrecords
      | cons first hrest =>
        refine .cons first (ih hrest (Nat.succ.inj hrecords) (Nat.succ.inj htaken) ?_)
        rw [List.length_cons] at hmore
        rwa [Nat.add_assoc, Nat.add_comm 1]

theorem Pairs.recordIds {n : Nat} {rows : List Row} {assignments : List (List String)}
    {records : List (AssignedRecord φ)} (h : Pairs adaptUnswRow n rows assignments records) :
    records.map (·.recordId) = List.range' n records.length := by
  induction h with
  | nil => rfl
  | cons first _ ih => rw [List.map_cons, List.length_cons, List.range'_succ, ih, first.recordId]

theorem Pairs.ids {n : Nat} {rows : List Row} {taken rest : List (List String)} {records : List (AssignedRecord φ)}
    (h : Pairs adaptUnswRow n rows (taken ++ rest) records) (htaken : taken.length = records.length) :
    taken.map idOf = (List.range' n records.length).map fun k : Nat => some (k : ℤ) := by
  induction records generalizing n rows taken with
  | nil =>
    obtain rfl := List.length_eq_zero_iff.mp htaken
    rfl
  | cons record records ih =>
    cases taken with
    | nil => cases htaken
    | cons assignmentRow taken =>
      cases h with
      | cons first hrest =>
        rw [List.map_cons, List.length_cons, List.range'_succ, List.map_cons, ih hrest (Nat.succ.inj htaken), first.id]

end

/-! ## One turn -/

section
variable {φ : Type} {adaptUnswRow : Row → Except AdapterFault φ}

/-- What a validated row says. -/
theorem validateAssignmentRow_ok {row : List String} {n : Nat} {d : Disposition} {reason : String}
    (h : validateAssignmentRow row n = .ok (d, reason)) : idOf row = some (n : ℤ) ∧ row[2]? = some d.text := by
  unfold validateAssignmentRow at h
  split at h
  · rename_i recordText groupId disposition reason'
    cases hid : parseInt recordText with
    | none =>
      rw [hid] at h
      cases h
    | some recordId =>
      simp only [hid] at h
      by_cases hn : recordId = n
      · rw [if_neg (not_not.mpr hn)] at h
        cases hd : DISPOSITIONS.find? (·.text == disposition) with
        | none =>
          rw [hd] at h
          cases h
        | some d' =>
          simp only [hd] at h
          obtain ⟨_, -, h⟩ := Except.bind_eq_ok.mp h
          obtain ⟨rfl, rfl⟩ := Prod.mk.inj (Except.ok.inj h)
          have hfound := List.find?_some hd
          have htext : d'.text = disposition := beq_iff_eq.mp hfound
          exact ⟨by rw [idOf, List.head?_cons, Option.bind_some, hid, hn], by rw [htext]; rfl⟩
      · rw [if_pos hn] at h
        cases h
  · cases h

/-- `n` rows of the archive were taken, and `n` was added to the number of the last record. -/
structure Consumed (n : Nat) (s s' : JoinState) : Prop where
  recordId : s'.recordId = s.recordId + n
  reader : ∃ taken, s.reader = s'.reader.prepend taken ∧ taken.length = n

theorem Consumed.zero (s : JoinState) : Consumed 0 s s := ⟨rfl, [], rfl, rfl⟩

theorem Consumed.trans {m n : Nat} {s s' s'' : JoinState} (h : Consumed m s s') (h' : Consumed n s' s'') :
    Consumed (m + n) s s'' := by
  obtain ⟨taken, heq, hlen⟩ := h.reader
  obtain ⟨taken', heq', hlen'⟩ := h'.reader
  refine ⟨by rw [h'.recordId, h.recordId, Nat.add_assoc], taken ++ taken', ?_, ?_⟩
  · rw [heq, heq', Generator.prepend_append]
  · rw [List.length_append, hlen, hlen']

theorem joinRow_ok {row : Row} {s s' : JoinState} {record : AssignedRecord φ}
    (h : joinRow adaptUnswRow row s = .ok (record, s')) :
    ∃ assignmentRow, s.reader = .yielded assignmentRow s'.reader ∧ s'.recordId = s.recordId + 1 ∧
      Paired adaptUnswRow (s.recordId + 1) row assignmentRow record := by
  unfold joinRow at h
  cases hreader : s.reader with
  | ended r =>
    rw [hreader] at h
    cases h
  | raised fault =>
    rw [hreader] at h
    cases h
  | yielded assignmentRow reader =>
    rw [hreader] at h
    cases hvalid : validateAssignmentRow assignmentRow (s.recordId + 1) with
    | error code =>
      simp only [hvalid] at h
      cases h
    | ok decision =>
      obtain ⟨disposition, reason⟩ := decision
      obtain ⟨hid, htext⟩ := validateAssignmentRow_ok hvalid
      cases hadapt : adaptForAssignment adaptUnswRow row with
      | error e =>
        simp only [hvalid, hadapt] at h
        cases h
      | ok flow =>
        simp only [hvalid, hadapt] at h
        by_cases hflow : flow.isNone = (disposition == .rejected)
        · rw [if_neg (not_not.mpr hflow)] at h
          obtain ⟨rfl, rfl⟩ := Prod.mk.inj (Except.ok.inj h)
          refine ⟨assignmentRow, rfl, rfl, rfl, hid, htext, hadapt, ?_⟩
          rw [← Option.isNone_iff_eq_none, hflow, beq_iff_eq]
        · rw [if_pos hflow] at h
          cases h

/-! ## A file -/

variable (adaptUnswRow) in
theorem joinRows_pairs (rows : Generator JoinError Row Unit) (fileRows : Nat) (s : JoinState) :
    Pairs adaptUnswRow (s.recordId + 1) rows.items s.reader.items (joinRows adaptUnswRow none rows fileRows s).items := by
  induction rows generalizing fileRows s with
  | ended r => exact .nil ..
  | raised e => exact .nil ..
  | yielded row rest ih =>
    rw [joinRows]
    cases hrow : joinRow adaptUnswRow row s with
    | error e => exact .nil ..
    | ok joined =>
      obtain ⟨record, s'⟩ := joined
      obtain ⟨assignmentRow, hreader, hid, hpaired⟩ := joinRow_ok hrow
      rw [hreader]
      refine .cons hpaired ?_
      rw [← hid]
      exact ih (fileRows + 1) s'

theorem joinRows_ok {rows : Generator JoinError Row Unit} {fileRows : Nat} {s : JoinState}
    {o : Option (Nat × JoinState)} (h : (joinRows adaptUnswRow none rows fileRows s).result = .ok o) :
    rows.result = .ok () ∧ (joinRows adaptUnswRow none rows fileRows s).items.length = rows.items.length ∧
      ∃ s', o = some (fileRows + rows.items.length, s') ∧ Consumed rows.items.length s s' := by
  induction rows generalizing fileRows s with
  | ended r => exact ⟨rfl, rfl, s, (Except.ok.inj h).symm, .zero s⟩
  | raised e => cases h
  | yielded row rest ih =>
    rw [joinRows] at h ⊢
    cases hrow : joinRow adaptUnswRow row s with
    | error e =>
      rw [hrow] at h
      cases h
    | ok joined =>
      obtain ⟨record, s'⟩ := joined
      obtain ⟨assignmentRow, hreader, hid, -⟩ := joinRow_ok hrow
      rw [hrow] at h
      obtain ⟨hresult, hlength, s'', ho, hconsumed⟩ := ih h
      have hfirst : Consumed 1 s s' := ⟨hid, [assignmentRow], hreader, rfl⟩
      refine ⟨hresult, congrArg Nat.succ hlength, s'', ?_, ?_⟩
      · rw [ho, Generator.items, List.length_cons, Nat.add_assoc, Nat.add_comm 1]
      · rw [Generator.items, List.length_cons, Nat.add_comm]
        exact hfirst.trans hconsumed

theorem readFault_ok {α ρ : Type} {g : Generator Fault α ρ} {r : ρ} (h : (readFault g).result = .ok r) :
    g.result = .ok r ∧ (readFault g).items = g.items := by
  induction g with
  | ended r' => exact ⟨congrArg Except.ok (Except.ok.inj h), rfl⟩
  | raised fault => cases h
  | yielded a rest ih =>
    obtain ⟨hresult, hitems⟩ := ih h
    exact ⟨hresult, congrArg (a :: ·) hitems⟩

/-- A reader that comes to the end of its file has given every row of it. -/
theorem unswRawReader_ok {featureNames : List String} {file : RawFile}
    (h : (unswRawReader featureNames file).result = .ok ()) :
    file.content.result = .ok () ∧ (unswRawReader featureNames file).items.length = file.content.items.length := by
  unfold unswRawReader at h ⊢
  split_ifs at h ⊢ with hcount hnodup
  · cases h
  · obtain ⟨hresult, hlength⟩ := Generator.enumMap_ok h
    obtain ⟨hcontent, hitems⟩ := readFault_ok hresult
    exact ⟨hcontent, by rw [hlength, hitems]⟩
  · cases h

variable (adaptUnswRow) in
theorem joinFile_pairs (featureNames : List String) (file : RawFile) (s : JoinState) :
    Pairs adaptUnswRow (s.recordId + 1) (unswRawReader featureNames file).items s.reader.items
      (joinFile adaptUnswRow none featureNames file s).items := by
  have hpairs := joinRows_pairs adaptUnswRow (unswRawReader featureNames file) 0 s
  unfold joinFile
  cases hrows : (joinRows adaptUnswRow none (unswRawReader featureNames file) 0 s).result with
  | error e =>
    rw [(Generator.bind_error hrows).1]
    exact hpairs
  | ok o =>
    obtain ⟨-, -, s', rfl, -⟩ := joinRows_ok hrows
    rw [(Generator.bind_ok hrows).1]
    simp only
    split
    · rw [Generator.items, List.append_nil]
      exact hpairs
    · rw [Generator.items, List.append_nil]
      exact hpairs

/-- The file has its registered number of rows, each with a record. -/
theorem joinFile_ok {featureNames : List String} {file : RawFile} {s : JoinState} {o : Option JoinState}
    (h : (joinFile adaptUnswRow none featureNames file s).result = .ok o) :
    (file.content.result = .ok () ∧ file.content.items.length = file.rows.getD 0) ∧
      (unswRawReader featureNames file).items.length = file.content.items.length ∧
      (joinFile adaptUnswRow none featureNames file s).items.length = file.content.items.length ∧
      ∃ s', o = some s' ∧ Consumed file.content.items.length s s' := by
  unfold joinFile at h ⊢
  cases hrows : (joinRows adaptUnswRow none (unswRawReader featureNames file) 0 s).result with
  | error e =>
    rw [(Generator.bind_error hrows).2] at h
    cases h
  | ok o' =>
    obtain ⟨hresult, hlength, s', rfl, hconsumed⟩ := joinRows_ok hrows
    obtain ⟨hcontent, hitems⟩ := unswRawReader_ok hresult
    rw [hitems] at hlength hconsumed
    rw [(Generator.bind_ok hrows).2] at h
    rw [(Generator.bind_ok hrows).1]
    rw [hitems] at h ⊢
    simp only [Nat.zero_add] at h ⊢
    by_cases hregistered : file.content.items.length = file.rows.getD 0
    · rw [if_neg (not_not.mpr hregistered)] at h ⊢
      refine ⟨⟨hcontent, hregistered⟩, trivial, ?_, s', (Except.ok.inj h).symm, hconsumed⟩
      rw [Generator.items, List.append_nil, hlength]
    · rw [if_pos hregistered] at h
      cases h

/-! ## All files -/

def rowsOf (featureNames : List String) (files : List RawFile) : List Row :=
  files.flatMap fun file => (unswRawReader featureNames file).items

def rowCount (files : List RawFile) : Nat := (files.map fun file => file.content.items.length).sum

variable (adaptUnswRow) in
theorem joinFiles_pairs (featureNames : List String) (files : List RawFile) (s : JoinState) :
    Pairs adaptUnswRow (s.recordId + 1) (rowsOf featureNames files) s.reader.items
      (joinFiles adaptUnswRow none featureNames files s).items := by
  induction files generalizing s with
  | nil => exact .nil ..
  | cons file files ih =>
    have hpairs := joinFile_pairs adaptUnswRow featureNames file s
    rw [joinFiles, rowsOf, List.flatMap_cons]
    cases hfile : (joinFile adaptUnswRow none featureNames file s).result with
    | error e =>
      rw [(Generator.bind_error hfile).1]
      exact hpairs.extend _
    | ok o =>
      obtain ⟨-, hitems, hlength, s', rfl, hconsumed⟩ := joinFile_ok hfile
      obtain ⟨taken, hreader, htaken⟩ := hconsumed.reader
      rw [(Generator.bind_ok hfile).1]
      rw [hreader, Generator.items_prepend] at hpairs ⊢
      refine hpairs.append (by rw [hlength, hitems]) (by rw [htaken, hitems]) ?_
      have hid : s.recordId + 1 + (unswRawReader featureNames file).items.length = s'.recordId + 1 := by
        rw [hconsumed.recordId, hitems]
        omega
      rw [hid]
      exact ih s'

theorem joinFiles_ok {featureNames : List String} {files : List RawFile} {s : JoinState} {o : Option JoinState}
    (h : (joinFiles adaptUnswRow none featureNames files s).result = .ok o) :
    (∀ file ∈ files, file.content.result = .ok () ∧ file.content.items.length = file.rows.getD 0) ∧
      (rowsOf featureNames files).length = rowCount files ∧
      (joinFiles adaptUnswRow none featureNames files s).items.length = rowCount files ∧
      ∃ s', o = some s' ∧ Consumed (rowCount files) s s' := by
  induction files generalizing s with
  | nil => exact ⟨by simp, rfl, rfl, s, (Except.ok.inj h).symm, .zero s⟩
  | cons file files ih =>
    rw [joinFiles] at h ⊢
    cases hfile : (joinFile adaptUnswRow none featureNames file s).result with
    | error e =>
      rw [(Generator.bind_error hfile).2] at h
      cases h
    | ok o' =>
      obtain ⟨hregistered, hitems, hlength, s', rfl, hconsumed⟩ := joinFile_ok hfile
      rw [(Generator.bind_ok hfile).2] at h
      obtain ⟨hfiles, hrows, hrecords, s'', ho, hrest⟩ := ih h
      refine ⟨?_, ?_, ?_, s'', ho, hconsumed.trans hrest⟩
      · intro f hf
        rcases List.mem_cons.mp hf with rfl | hf
        · exact hregistered
        · exact hfiles f hf
      · rw [rowsOf, List.flatMap_cons, List.length_append, hitems]
        exact congrArg _ hrows
      · rw [(Generator.bind_ok hfile).1, List.length_append, hlength]
        exact congrArg _ hrecords

/-! ## The whole generator -/

def AssignmentEvidence.sourceRows (evidence : AssignmentEvidence) : List Row :=
  rowsOf evidence.featureNames evidence.rawFiles

/-- The data rows of the archive. -/
def AssignmentEvidence.archiveRows (evidence : AssignmentEvidence) : List (List String) :=
  match evidence.archive with
  | .ok archive => archive.items.tail
  | .error _ => []

/-- Nothing is missing and nothing is left over: the archive has the numbers `1 .. N` in order and ends after
them, each file has its registered number of rows, `N` is the registered total, and there are `N` records. -/
structure Complete (evidence : AssignmentEvidence) (records : List (AssignedRecord φ)) : Prop where
  archive : ∃ reader, evidence.archive = .ok (.yielded ASSIGNMENT_HEADER reader) ∧ reader.result = .ok ()
  ids : evidence.archiveRows.map idOf = (List.range' 1 (rowCount evidence.rawFiles)).map fun n : Nat => some (n : ℤ)
  files : ∀ file ∈ evidence.rawFiles, file.content.result = .ok () ∧ file.content.items.length = file.rows.getD 0
  sourceRows : evidence.sourceRows.length = rowCount evidence.rawFiles
  total : rowCount evidence.rawFiles = evidence.totalRows
  records : records.map (·.recordId) = List.range' 1 (rowCount evidence.rawFiles)

theorem checkCoverage_items (totalRows : Nat) (s : JoinState) :
    (checkCoverage totalRows s : Generator JoinError (AssignedRecord φ) Unit).items = [] := by
  unfold checkCoverage
  split
  · rfl
  · rfl
  · split <;> rfl

theorem checkCoverage_ok {totalRows : Nat} {s : JoinState}
    (h : (checkCoverage totalRows s : Generator JoinError (AssignedRecord φ) Unit).result = .ok ()) :
    s.reader = .ended () ∧ s.recordId = totalRows := by
  unfold checkCoverage at h
  split at h
  · cases h
  · cases h
  · rename_i hreader
    by_cases htotal : s.recordId = totalRows
    · exact ⟨hreader, htotal⟩
    · rw [if_pos htotal] at h
      cases h

/-- **The join is one to one.** The records pair the source rows and the archive rows with the same number,
from the first on, also in a run that raises; a run that does not raise is complete. -/
theorem source_rows_joined_once (adaptUnswRow : Row → Except AdapterFault φ) (evidence : AssignmentEvidence) :
    Pairs adaptUnswRow 1 evidence.sourceRows evidence.archiveRows
        (iterAssignedSourceRecords adaptUnswRow evidence none).items ∧
      ((∃ e, (iterAssignedSourceRecords adaptUnswRow evidence none).result = .error e) ∨
        Complete evidence (iterAssignedSourceRecords adaptUnswRow evidence none).items) := by
  unfold iterAssignedSourceRecords
  rw [if_neg (by simp)]
  split
  · exact ⟨.nil .., .inl ⟨_, rfl⟩⟩
  · exact ⟨.nil .., .inl ⟨_, rfl⟩⟩
  · exact ⟨.nil .., .inl ⟨_, rfl⟩⟩
  · exact ⟨.nil .., .inl ⟨_, rfl⟩⟩
  · rename_i header reader harchive
    by_cases hheader : header = ASSIGNMENT_HEADER
    · rw [if_neg (not_not.mpr hheader)]
      have hrows : evidence.archiveRows = reader.items := by
        rw [AssignmentEvidence.archiveRows, harchive]
        rfl
      have hpairs := joinFiles_pairs adaptUnswRow evidence.featureNames evidence.rawFiles ⟨0, reader⟩
      rw [hrows]
      cases hfiles : (joinFiles adaptUnswRow none evidence.featureNames evidence.rawFiles ⟨0, reader⟩).result with
      | error e =>
        rw [(Generator.bind_error hfiles).1, (Generator.bind_error hfiles).2]
        exact ⟨hpairs, .inl ⟨e, rfl⟩⟩
      | ok o =>
        obtain ⟨hregistered, hsource, hrecords, s', rfl, hconsumed⟩ := joinFiles_ok hfiles
        rw [(Generator.bind_ok hfiles).1, (Generator.bind_ok hfiles).2, checkCoverage_items, List.append_nil]
        refine ⟨hpairs, ?_⟩
        cases hcoverage : (checkCoverage evidence.totalRows s' : Generator JoinError (AssignedRecord φ) Unit).result with
        | error e => exact .inl ⟨e, rfl⟩
        | ok r =>
          obtain ⟨hended, htotal⟩ := checkCoverage_ok hcoverage
          obtain ⟨taken, htaken, hlength⟩ := hconsumed.reader
          have htaken : reader = (Generator.ended ()).prepend taken := htaken.trans (by rw [hended])
          have hitems : reader.items = taken ++ [] := by
            rw [htaken, Generator.items_prepend]
            rfl
          have hcount : rowCount evidence.rawFiles = evidence.totalRows := by
            rw [← htotal, hconsumed.recordId, Nat.zero_add]
          refine .inr ⟨⟨reader, by rw [harchive, hheader], by rw [htaken, Generator.result_prepend]; rfl⟩, ?_,
            hregistered, hsource, hcount, ?_⟩
          · rw [hrows, hitems, List.append_nil, ← hrecords]
            rw [hitems] at hpairs
            exact hpairs.ids (by rw [hlength, hrecords])
          · rw [← hrecords]
            exact hpairs.recordIds
    · rw [if_pos hheader]
      exact ⟨.nil .., .inl ⟨_, rfl⟩⟩

end

/-- A file of one row, registered with `rows` rows. -/
def oneRow (stem : String) (rows : Nat) : RawFile :=
  ⟨stem, some rows, .yielded (List.replicate UNSW_RAW_COLUMN_COUNT "0") (.ended ())⟩

def twoFiles (secondRows : Nat) : AssignmentEvidence where
  archive := .ok <| .yielded ASSIGNMENT_HEADER <| .yielded ["1", "", "rejected", "source_rejected"] <|
    .yielded ["2", String.ofList (List.replicate 64 'a'), "train", ""] <| .ended ()
  featureNames := (List.range UNSW_RAW_COLUMN_COUNT).map toString
  rawFiles := [oneRow "first" 1, oneRow "second" secondRows]
  totalRows := 2

def refuseFirst (row : Row) : Except AdapterFault Unit :=
  if row.lookup "flow_id" = some "first:1" then .error .overflowError else .ok ()

example : (iterAssignedSourceRecords refuseFirst (twoFiles 1) none).result = .ok () ∧
    (iterAssignedSourceRecords refuseFirst (twoFiles 2) none).result =
      .error (.networkPreprocessingError .registeredSourceRowCountMismatch) := by
  constructor
  · decide +kernel
  · decide +kernel

end ThreatFusion.Preprocessing
