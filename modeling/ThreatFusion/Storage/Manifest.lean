import ThreatFusion.Lib.Result
import ThreatFusion.Py.Plain
import ThreatFusion.Storage.Model
/-
# What a snapshot directory holds

* `length_text_le`: a manifest fits in its file.
* `readManifest_text`: a manifest is read back.
* `verify_written`: a directory that was written as a snapshot verifies.
-/
namespace ThreatFusion.Storage
open Py Grouping JsonText

/-! ## Files by name -/

/-- The names that a snapshot may not have beside its own. -/
def visible (dir : Directory) : List String := (dir.map Prod.fst).filter fun name => !hidden name

theorem lookup_put (dir : Directory) (name : String) (file : StoredFile) (other : String) :
    (put dir name file).lookup other = if other = name then some file else dir.lookup other := by
  by_cases h : other = name
  · rw [if_pos h, h, put, List.lookup_cons, beq_self_eq_true]
  · rw [if_neg h, put, List.lookup_cons, beq_eq_false_iff_ne.2 h]
    dsimp only
    induction dir with
    | nil => rfl
    | cons e rest ih =>
      obtain ⟨n, f⟩ := e
      by_cases hn : n = name
      · rw [List.filter_cons_of_neg (by simp [hn]), ih, List.lookup_cons, beq_eq_false_iff_ne.2 (hn ▸ h)]
      · rw [List.filter_cons_of_pos (by simp [hn]), List.lookup_cons, List.lookup_cons, ih]

theorem lookup_put_self (dir : Directory) (name : String) (file : StoredFile) :
    (put dir name file).lookup name = some file := by
  rw [lookup_put, if_pos rfl]

theorem lookup_put_of_ne {dir : Directory} {name other : String} (h : other ≠ name) (file : StoredFile) :
    (put dir name file).lookup other = dir.lookup other := by
  rw [lookup_put, if_neg h]

theorem mem_visible_put {dir : Directory} {name : String} (h : hidden name = false) (file : StoredFile)
    {other : String} : other ∈ visible (put dir name file) ↔ other = name ∨ other ∈ visible dir := by
  simp only [visible, put, List.map_cons, List.mem_filter, List.mem_cons, List.mem_map, decide_eq_true_eq,
    Bool.not_eq_eq_eq_not, Bool.not_true]
  constructor
  · rintro ⟨rfl | ⟨e, he, rfl⟩, hvisible⟩
    · exact .inl rfl
    · exact .inr ⟨⟨e, he.1, rfl⟩, hvisible⟩
  · rintro (rfl | ⟨⟨e, he, rfl⟩, hvisible⟩)
    · exact ⟨.inl rfl, h⟩
    · by_cases hn : e.1 = name
      · exact ⟨.inl hn, hvisible⟩
      · exact ⟨.inr ⟨e, ⟨he, hn⟩, rfl⟩, hvisible⟩

theorem Role.filename_inj {a b : Role} : a.filename = b.filename ↔ a = b := by
  cases a <;> cases b <;> decide

theorem Role.text_inj {a b : Role} : a.text = b.text ↔ a = b := by
  cases a <;> cases b <;> decide

theorem Role.filename_ne_manifest (role : Role) : role.filename ≠ MANIFEST_FILENAME := by
  cases role <;> decide

/-! ## An inspected database -/

section
variable {sha256 : Bytes → String} {dir : Directory} {role : Role} {read : StoredFile → Option Database}

/-- What an accepted inspection saw. -/
structure Inspected (sha256 : Bytes → String) (dir : Directory) (role : Role) (read : StoredFile → Option Database)
    (file : StoredFile) (db : Database) (info : DatabaseInfo) : Prop where
  found : dir.lookup role.filename = some file
  regular : file.kind = .regular
  owned : file.owned = true
  mode : file.mode = 0o600
  bytes : file.bytes.length ≠ 0
  database : read file = some db
  intact : db.intact = true
  version : db.userVersion = role.schemaVersion
  identity : ∃ metadata, db.metadataFor role = some metadata ∧
    metadata.lookup "schema_identity" = some role.schemaIdentity
  counts : db.rowCounts role = some info.rowCounts
  info_eq : info = ⟨role, sha256 file.bytes, file.bytes.length, info.rowCounts⟩

theorem checkNoSymlink_eq_ok {name : String} {file : StoredFile} :
    checkNoSymlink dir name = .ok file ↔ dir.lookup name = some file ∧ file.kind = .regular := by
  unfold checkNoSymlink
  cases dir.lookup name with
  | none => simp [raise]
  | some f =>
    dsimp only
    split
    · rename_i hkind
      refine iff_of_false (by simp [raise]) ?_
      rintro ⟨⟨⟩, hregular⟩
      rw [hkind] at hregular
      cases hregular
    · rename_i hkind
      refine iff_of_false (by simp [raise]) ?_
      rintro ⟨⟨⟩, hregular⟩
      rw [hkind] at hregular
      cases hregular
    · rename_i hkind
      rw [Except.ok.injEq, Option.some.injEq]
      exact ⟨fun h => ⟨h, h ▸ hkind⟩, And.left⟩

theorem inspectDatabase_eq_ok {info : DatabaseInfo} :
    inspectDatabase sha256 dir role read = .ok info ↔ ∃ file db, Inspected sha256 dir role read file db info := by
  constructor
  · intro h
    unfold inspectDatabase at h
    obtain ⟨file, hfile, h⟩ := Except.bind_eq_ok.1 h
    obtain ⟨hfound, hregular⟩ := checkNoSymlink_eq_ok.1 hfile
    split at h
    · cases h
    · rename_i hperm
      rw [Bool.or_eq_true, not_or, Bool.not_eq_true', Bool.not_eq_false, decide_eq_true_eq, not_not] at hperm
      split at h
      · cases h
      · rename_i hbytes
        split at h
        · cases h
        · rename_i db hdb
          split at h
          · cases h
          · rename_i hintact
            rw [Bool.not_eq_true', Bool.not_eq_false] at hintact
            split at h
            · cases h
            · rename_i hversion
              rw [not_not] at hversion
              split at h
              · cases h
              · rename_i metadata hmetadata
                split at h
                · cases h
                · rename_i hidentity
                  rw [not_not] at hidentity
                  split at h
                  · cases h
                  · rename_i counts hcounts
                    cases h
                    exact ⟨file, db, hfound, hregular, hperm.1, hperm.2, hbytes, hdb, hintact, hversion,
                      ⟨metadata, hmetadata, hidentity⟩, hcounts, rfl⟩
  · rintro ⟨file, db, h⟩
    obtain ⟨metadata, hmetadata, hidentity⟩ := h.identity
    rw [inspectDatabase, checkNoSymlink_eq_ok.2 ⟨h.found, h.regular⟩, Except.ok_bind]
    simp only [h.owned, h.mode, h.bytes, h.database, h.intact, h.version, hmetadata, hidentity, h.counts, Bool.not_true,
      Bool.false_or, ne_eq, not_true_eq_false, decide_false, Bool.false_eq_true, if_false]
    exact congrArg Except.ok h.info_eq.symm

end

/-! ## An entry of the manifest -/

/-- The tables that are counted each have one name, of plain characters. -/
theorem rowCounts_names {db : Database} {role : Role} {counts : List (String × Nat)}
    (h : db.rowCounts role = some counts) :
    (counts.map Prod.fst).Nodup ∧ (counts.map Prod.fst).length ≤ 4 ∧
      ∀ name ∈ counts.map Prod.fst, name.toList.all isPlain = true ∧ name.length ≤ 32 := by
  unfold Database.rowCounts at h
  split at h
  · cases h
    simp only [List.map_cons, List.map_nil]
    decide
  · cases h
    simp only [List.map_cons, List.map_nil]
    decide
  · cases h
    simp only [List.map_cons, List.map_nil]
    decide
  · rename_i tables hasCorrections _
    cases h
    cases hasCorrections
    · simp only [Bool.false_eq_true, if_false, List.append_nil, List.cons_append, List.nil_append, List.map_cons,
        List.map_nil]
      decide
    · simp only [if_true, List.cons_append, List.nil_append, List.map_cons, List.map_nil]
      decide
  · cases h

theorem isText_value (s : String) : isText s (sortKeys (.str s)).value = true := by
  simp only [sortKeys, Json.value, isText, beq_self_eq_true]

theorem isNumber_value (floatIs : String → ℤ → Bool) (n : ℤ) : isNumber floatIs n (sortKeys (.int n)).value = true := by
  simp only [sortKeys, Json.value, isNumber, beq_self_eq_true]

theorem areCounts_value (floatIs : String → ℤ → Bool) {counts : List (String × Nat)} (h : (counts.map Prod.fst).Nodup) :
    areCounts floatIs counts (sortKeys (.obj (counts.map fun c => (c.1, .int c.2)))).value = true := by
  have hkeys : ((counts.map fun c => (c.1, Json.int c.2)).map Prod.fst).Nodup := by
    rw [List.map_map]
    exact h
  rw [sortKeys_obj, Json.value, areCounts, dictOf_sorted hkeys, Bool.and_eq_true, beq_iff_eq, List.all_eq_true]
  constructor
  · rw [fieldValues_eq_map, List.length_map, (sortedFields_perm _).length_eq, List.length_map, List.length_map]
  · intro count hcount
    have hlookup : (counts.map fun c => (c.1, Json.int c.2)).lookup count.1 = some (.int count.2) :=
      (lookup_iff_mem hkeys).2 (List.mem_map.2 ⟨count, hcount, rfl⟩)
    rw [item_sorted hkeys, hlookup, Option.map_some, Option.any_some]
    exact isNumber_value floatIs count.2

section
variable {sha256 : Bytes → String} {dir : Directory} {role : Role}

/-- **An inspected database passes the check of its entry.** -/
theorem verifyDatabase_inspected (floatIs : String → ℤ → Bool) {info : DatabaseInfo}
    (h : inspectDatabase sha256 dir role (·.database) = .ok info) :
    verifyDatabase sha256 floatIs dir role (sortKeys info.json).value = .ok () := by
  obtain ⟨file, db, hins⟩ := inspectDatabase_eq_ok.1 h
  have hsha : info.sha256 = sha256 file.bytes := by rw [hins.info_eq]
  have hsize : info.sizeBytes = file.bytes.length := by rw [hins.info_eq]
  unfold DatabaseInfo.json
  rw [sortKeys_obj, Json.value, verifyDatabase, checkNoSymlink_eq_ok.2 ⟨hins.found, hins.regular⟩, Except.ok_bind]
  generalize hfs : [("filename", Json.str info.role.filename), ("sha256", .str info.sha256),
    ("size_bytes", .int info.sizeBytes), ("schema_identity", .str info.role.schemaIdentity),
    ("schema_version", .int info.role.schemaVersion),
    ("row_counts", .obj (info.rowCounts.map fun count => (count.1, .int count.2)))] = fs
  have hkeys : (fs.map Prod.fst).Nodup := by
    rw [← hfs]
    simp only [List.map_cons, List.map_nil]
    decide
  have hdigest : fs.lookup "sha256" = some (.str info.sha256) := by rw [← hfs]; rfl
  have hbytes : fs.lookup "size_bytes" = some (.int info.sizeBytes) := by rw [← hfs]; rfl
  have hcounts : fs.lookup "row_counts" = some (.obj (info.rowCounts.map fun count => (count.1, .int count.2))) := by
    rw [← hfs]; rfl
  simp only [hins.owned, hins.mode, item_sorted hkeys, hdigest, hbytes, hcounts, Option.map_some, Option.any_some, hsha,
    isText_value, hsize, isNumber_value, Bool.not_true, Bool.false_or, ne_eq, not_true_eq_false, decide_false,
    Bool.false_eq_true, if_false, h, Except.ok_bind, areCounts_value floatIs (rowCounts_names hins.counts).1]

theorem roleOf_text (role : Role) : roleOf (points role.text) = some role := by
  cases role <;> decide

/-- The entries are checked one after another. -/
theorem verifyDatabases_ok (floatIs : String → ℤ → Bool) {entries : List (List Nat × Value)}
    (h : ∀ e ∈ entries, ∃ role : Role, e.1 = points role.text ∧ verifyDatabase sha256 floatIs dir role e.2 = .ok ()) :
    ∃ roles, verifyDatabases sha256 floatIs dir entries = .ok roles ∧
      entries.map Prod.fst = roles.map fun role => points role.text := by
  induction entries with
  | nil => exact ⟨[], rfl, rfl⟩
  | cons e rest ih =>
    obtain ⟨key, expected⟩ := e
    obtain ⟨role, hkey, hverify⟩ := h _ List.mem_cons_self
    obtain ⟨roles, hroles, hkeys⟩ := ih fun e he => h e (List.mem_cons_of_mem _ he)
    dsimp only at hkey hverify
    refine ⟨role :: roles, ?_, ?_⟩
    · rw [verifyDatabases, hkey, roleOf_text]
      dsimp only
      rw [hverify, Except.ok_bind, hroles, Except.ok_bind]
      rfl
    · rw [List.map_cons, List.map_cons, hkeys, hkey]

end

/-! ## The text of a manifest -/

/-- SQLite's integers have 64 bits; so do its counts, and the size of a file. -/
abbrev Small (n : Nat) : Prop := n < 2 ^ 63

theorem Small.digits {n : Nat} (h : Small n) : n < 10 ^ 19 := lt_trans h (by decide)

structure DatabaseInfo.Fits (info : DatabaseInfo) : Prop where
  sha256 : isSha256 info.sha256 = true
  size : Small info.sizeBytes
  nodup : (info.rowCounts.map Prod.fst).Nodup
  few : (info.rowCounts.map Prod.fst).length ≤ 4
  names : ∀ name ∈ info.rowCounts.map Prod.fst, name.toList.all isPlain = true ∧ name.length ≤ 32
  counts : ∀ count ∈ info.rowCounts, Small count.2

structure ConsistencyInfo.Fits (info : ConsistencyInfo) : Prop where
  alerts : Small info.totalAlertCandidates
  states : Small info.totalAnalystStates
  incidents : ∀ total, info.totalIncidents = some total → Small total

structure Manifest.Fits (m : Manifest) : Prop where
  databases : ∀ info ∈ m.databases, info.Fits
  few : m.databases.length ≤ 4
  consistency : m.consistency.Fits

theorem Role.text_plain (role : Role) : role.text.toList.all isPlain = true ∧ role.text.length ≤ 9 := by
  cases role <;> decide

theorem Role.filename_plain (role : Role) : role.filename.toList.all isPlain = true ∧ role.filename.length ≤ 17 := by
  cases role <;> decide

theorem Role.schemaIdentity_plain (role : Role) :
    role.schemaIdentity.toList.all isPlain = true ∧ role.schemaIdentity.length ≤ 32 := by
  cases role <;> decide

theorem lengthIn_counts {info : DatabaseInfo} (h : info.Fits) :
    lengthIn .indented 3 (.obj (info.rowCounts.map fun count => (count.1, .int count.2))) ≤ 278 := by
  have hfields : ∀ f ∈ info.rowCounts.map (fun count => (count.1, Json.int count.2)),
      (f.1.toList.all isPlain = true ∧ f.1.length ≤ 32) ∧ lengthIn .indented 4 f.2 ≤ 19 := by
    intro f hf
    obtain ⟨count, hcount, rfl⟩ := List.mem_map.1 hf
    exact ⟨h.names _ (List.mem_map_of_mem hcount), lengthIn_nat_le _ (by decide) (h.counts count hcount).digits 4⟩
  have hle := lengthIn_indented_obj_le hfields
  have hfew := h.few
  rw [List.length_map] at hle hfew
  omega

theorem lengthIn_info {info : DatabaseInfo} (h : info.Fits) : lengthIn .indented 2 info.json ≤ 1844 := by
  obtain ⟨hsha, hshaLength⟩ := isPlain_of_isSha256 h.sha256
  obtain ⟨hname, hnameLength⟩ := info.role.filename_plain
  obtain ⟨hschema, hschemaLength⟩ := info.role.schemaIdentity_plain
  unfold DatabaseInfo.json
  refine (lengthIn_indented_obj_le (a := 15) (b := 278) ?_).trans (by simp)
  simp only [List.forall_mem_cons, List.not_mem_nil, false_implies, implies_true, and_true, lengthIn_str _ hsha,
    lengthIn_str _ hname, lengthIn_str _ hschema]
  have hversion : lengthIn .indented 3 (.int info.role.schemaVersion) ≤ 1 :=
    lengthIn_nat_le (n := 1) _ (by decide) (by decide) 3
  have hsize := lengthIn_nat_le .indented (by decide) h.size.digits 3
  have hcounts := lengthIn_counts h
  exact ⟨⟨by decide, by omega⟩, ⟨by decide, by omega⟩, ⟨by decide, hsize.trans (by decide)⟩, ⟨by decide, by omega⟩,
    ⟨by decide, hversion.trans (by decide)⟩, by decide, hcounts⟩

theorem lengthIn_databases {m : Manifest} (h : m.Fits) :
    lengthIn .indented 1 (.obj (m.databases.map fun info => (info.role.text, info.json))) ≤ 7462 := by
  have hfields : ∀ f ∈ m.databases.map (fun info => (info.role.text, info.json)),
      (f.1.toList.all isPlain = true ∧ f.1.length ≤ 9) ∧ lengthIn .indented 2 f.2 ≤ 1844 := by
    intro f hf
    obtain ⟨info, hinfo, rfl⟩ := List.mem_map.1 hf
    exact ⟨info.role.text_plain, lengthIn_info (h.databases info hinfo)⟩
  have hle := lengthIn_indented_obj_le hfields
  have hfew := h.few
  rw [List.length_map] at hle
  omega

theorem lengthIn_consistency {info : ConsistencyInfo} (h : info.Fits) : lengthIn .indented 1 info.json ≤ 295 := by
  have hzero : lengthIn .indented 2 (.int 0) ≤ 19 := lengthIn_nat_le (n := 0) _ (by decide) (by decide) 2
  have halerts := lengthIn_nat_le .indented (by decide) h.alerts.digits 2
  have hstates := lengthIn_nat_le .indented (by decide) h.states.digits 2
  unfold ConsistencyInfo.json
  cases htotal : info.totalIncidents with
  | none =>
    refine (lengthIn_indented_obj_le (a := 28) (b := 19) ?_).trans (by simp)
    simp only [List.append_nil, List.forall_mem_cons, List.not_mem_nil, false_implies, implies_true, and_true]
    exact ⟨⟨by decide, halerts⟩, ⟨by decide, hstates⟩, by decide, hzero⟩
  | some total =>
    have htotal := lengthIn_nat_le .indented (by decide) (h.incidents total htotal).digits 2
    refine (lengthIn_indented_obj_le (a := 28) (b := 19) ?_).trans (by simp)
    simp only [List.cons_append, List.nil_append, List.forall_mem_cons, List.not_mem_nil, false_implies, implies_true,
      and_true]
    exact ⟨⟨by decide, halerts⟩, ⟨by decide, hstates⟩, ⟨by decide, hzero⟩, ⟨by decide, htotal⟩, by decide, hzero⟩

/-- **A manifest fits in its file.** -/
theorem length_text_le {m : Manifest} (h : m.Fits) : (utf8 m.text).length ≤ MAX_MANIFEST_BYTES := by
  have hiso : m.createdAtUtc.isoformat.toList.all isPlain = true := DateTime.isoformat_all (by decide) (by decide) _
  have hisoLength := m.createdAtUtc.length_isoformat_le
  have hdatabases := lengthIn_databases h
  have hconsistency := lengthIn_consistency h.consistency
  have hschema : lengthIn .indented 1 (.str SNAPSHOT_MANIFEST_SCHEMA) = 30 := lengthIn_str _ (by decide) 1
  have hcreated : lengthIn .indented 1 (.str m.createdAtUtc.isoformat) ≤ 34 := by
    rw [lengthIn_str _ hiso]
    omega
  have hjson : lengthIn .indented 0 m.json ≤ 7945 := by
    unfold Manifest.json
    refine (lengthIn_obj_le .indented 0 _).trans ?_
    have hopening : (Layout.indented.opening (0 + 1)).length = 3 := rfl
    have hclosing : (Layout.indented.closing 0).length = 1 := rfl
    have hcomma : (Layout.indented.comma (0 + 1)).length = 3 := rfl
    have hcolon : Layout.indented.colon.length = 1 := rfl
    have hkeys : (quote "schema").length = 8 ∧ (quote "created_at_utc").length = 16 ∧
        (quote "databases").length = 11 ∧ (quote "cross_database_consistency").length = 28 := by decide
    simp only [List.map_cons, List.map_nil, List.sum_cons, List.sum_nil, List.length_cons, List.length_nil, hopening,
      hclosing, hcomma, hcolon, hkeys, hschema, Nat.zero_add]
    omega
  have htext : m.text.length = lengthIn .indented 0 m.json + 1 := by
    rw [Manifest.text, String.length_ofList, List.length_append, List.length_singleton]
    rfl
  have hbytes := length_utf8_le m.text
  have hmax : MAX_MANIFEST_BYTES = 65536 := rfl
  omega

/-! ## A manifest is read back -/

theorem readable_str (s : String) : Readable (sortKeys (.str s)) := by simp [sortKeys, Readable]

theorem readable_int (n : ℤ) : Readable (sortKeys (.int n)) := by simp [sortKeys, Readable]

theorem shortInts_small {n : Nat} (h : Small n) : (sortKeys (.int n)).value.shortInts = true :=
  shortInts_nat (by decide) (by decide) h.digits

theorem DatabaseInfo.readable_json (info : DatabaseInfo) : Readable (sortKeys info.json) := by
  refine readable_sorted ?_
  simp only [List.forall_mem_cons, List.not_mem_nil, false_implies, implies_true, and_true, readable_str, readable_int,
    true_and]
  refine readable_sorted fun f hf => ?_
  obtain ⟨count, -, rfl⟩ := List.mem_map.1 hf
  exact readable_int _

theorem DatabaseInfo.shortInts_json {info : DatabaseInfo} (h : info.Fits) :
    (sortKeys info.json).value.shortInts = true := by
  refine shortInts_obj ?_
  simp only [List.forall_mem_cons, List.not_mem_nil, false_implies, implies_true, and_true, shortInts_str,
    shortInts_small h.size, true_and]
  refine ⟨shortInts_small (n := 1) (by decide), shortInts_obj fun f hf => ?_⟩
  obtain ⟨count, hcount, rfl⟩ := List.mem_map.1 hf
  exact shortInts_small (h.counts count hcount)

theorem ConsistencyInfo.readable_json (info : ConsistencyInfo) : Readable (sortKeys info.json) := by
  refine readable_sorted ?_
  cases info.totalIncidents <;>
    simp only [List.append_nil, List.cons_append, List.nil_append, List.forall_mem_cons, List.not_mem_nil,
      false_implies, implies_true, and_true, readable_int]

theorem ConsistencyInfo.shortInts_json {info : ConsistencyInfo} (h : info.Fits) :
    (sortKeys info.json).value.shortInts = true := by
  have hzero : (sortKeys (.int 0)).value.shortInts = true := shortInts_small (n := 0) (by decide)
  refine shortInts_obj ?_
  cases htotal : info.totalIncidents with
  | none =>
    simp only [List.append_nil, List.forall_mem_cons, List.not_mem_nil, false_implies, implies_true, and_true, hzero,
      shortInts_small h.alerts, shortInts_small h.states]
  | some total =>
    simp only [List.cons_append, List.nil_append, List.forall_mem_cons, List.not_mem_nil, false_implies, implies_true,
      and_true, hzero, shortInts_small h.alerts, shortInts_small h.states, shortInts_small (h.incidents total htotal)]

theorem Manifest.readable_json (m : Manifest) : Readable (sortKeys m.json) := by
  refine readable_sorted ?_
  simp only [List.forall_mem_cons, List.not_mem_nil, false_implies, implies_true, and_true, readable_str, true_and]
  refine ⟨readable_sorted fun f hf => ?_, m.consistency.readable_json⟩
  obtain ⟨info, -, rfl⟩ := List.mem_map.1 hf
  exact info.readable_json

theorem Manifest.shortInts_json {m : Manifest} (h : m.Fits) : (sortKeys m.json).value.shortInts = true := by
  refine shortInts_obj ?_
  simp only [List.forall_mem_cons, List.not_mem_nil, false_implies, implies_true, and_true, shortInts_str, true_and]
  refine ⟨shortInts_obj fun f hf => ?_, ConsistencyInfo.shortInts_json h.consistency⟩
  obtain ⟨info, hinfo, rfl⟩ := List.mem_map.1 hf
  exact DatabaseInfo.shortInts_json (h.databases info hinfo)

/-- The entries of a manifest that was read. -/
def Manifest.entries (m : Manifest) : List (List Nat × Value) :=
  fieldValues (sortedFields (m.databases.map fun info => (info.role.text, info.json)))

theorem Manifest.names_nodup {m : Manifest} (h : (m.databases.map (·.role)).Nodup) :
    ((m.databases.map fun info => (info.role.text, info.json)).map Prod.fst).Nodup := by
  have htexts := h.map (f := Role.text) fun a b => Role.text_inj.1
  rw [List.map_map] at htexts ⊢
  exact htexts

/-- **A manifest is read back.** -/
theorem readManifest_text {m : Manifest} (hfits : m.Fits) (hnodup : (m.databases.map (·.role)).Nodup) :
    readManifest ⟨.regular, true, 0o600, utf8 m.text, none⟩ = .ok ((sortKeys m.json).value, m.entries) := by
  have hblank : ∀ c ∈ ['\n'], isBlank c = true := by
    intro c hc
    rw [List.mem_singleton.1 hc]
    rfl
  have hloads : loads (dumpsIn .indented m.json ++ ['\n']) = some (sortKeys m.json).value :=
    loads_renderIn .indented m.readable_json 0 ['\n'] hblank
  unfold readManifest
  dsimp only
  rw [decodeUtf8_utf8]
  simp only [Manifest.text, String.toList_ofList, hloads, Manifest.shortInts_json hfits, Bool.not_true,
    Bool.false_eq_true, if_false]
  unfold Manifest.json
  rw [sortKeys_obj, Json.value]
  generalize hfs : [("schema", Json.str SNAPSHOT_MANIFEST_SCHEMA), ("created_at_utc", .str m.createdAtUtc.isoformat),
    ("databases", .obj (m.databases.map fun info => (info.role.text, info.json))),
    ("cross_database_consistency", m.consistency.json)] = fs
  have hkeys : (fs.map Prod.fst).Nodup := by
    rw [← hfs]
    simp only [List.map_cons, List.map_nil]
    decide
  have hschema : fs.lookup "schema" = some (.str SNAPSHOT_MANIFEST_SCHEMA) := by rw [← hfs]; rfl
  have hdatabases : fs.lookup "databases" =
      some (.obj (m.databases.map fun info => (info.role.text, info.json))) := by rw [← hfs]; rfl
  have hentries : dictOf m.entries = m.entries := dictOf_sorted (m.names_nodup hnodup)
  rw [Manifest.entries] at hentries
  simp only [item_sorted hkeys, hschema, hdatabases, Option.map_some, Option.any_some, isText_value, Bool.not_true,
    Bool.false_eq_true, if_false, sortKeys_obj, Json.value, hentries, Manifest.entries]

/-! ## A snapshot that was written verifies -/

/-- What `create_storage_snapshot` leaves in its directory. -/
structure Written (sha256 : Bytes → String) (dir : Directory) (m : Manifest) : Prop where
  fits : m.Fits
  nodup : (m.databases.map (·.role)).Nodup
  core : ∀ role ∈ CORE_DB_ROLES, role ∈ m.databases.map (·.role)
  names : ∀ name, name ∈ visible dir ↔
    name = MANIFEST_FILENAME ∨ ∃ role ∈ m.databases.map (·.role), name = role.filename
  manifest : dir.lookup MANIFEST_FILENAME = some ⟨.regular, true, 0o600, utf8 m.text, none⟩
  inspected : ∀ info ∈ m.databases, inspectDatabase sha256 dir info.role (·.database) = .ok info
  consistent : checkCrossDatabaseConsistency (readCopy dir .alerts) (readCopy dir .states)
    (if .incidents ∈ m.databases.map (·.role) then some (readCopy dir .incidents) else none) = .ok m.consistency

section
variable {sha256 : Bytes → String} {dir : Directory} {m : Manifest}

theorem Written.mem_expectedNames (h : Written sha256 dir m) (name : String) :
    name ∈ expectedNames (visible dir) ↔ name ∈ visible dir := by
  have hincidents : Role.incidents.filename ∈ visible dir ↔ Role.incidents ∈ m.databases.map (·.role) := by
    rw [h.names]
    refine ⟨fun hname => ?_, fun hrole => .inr ⟨.incidents, hrole, rfl⟩⟩
    rcases hname with hname | ⟨role, hrole, hname⟩
    · exact absurd hname (Role.filename_ne_manifest .incidents)
    · rwa [Role.filename_inj.1 hname]
  have hcore : ∀ role ∈ CORE_DB_ROLES, role.filename ∈ visible dir :=
    fun role hrole => (h.names _).2 (.inr ⟨role, h.core role hrole, rfl⟩)
  have hmanifest : MANIFEST_FILENAME ∈ visible dir := (h.names _).2 (.inl rfl)
  rw [expectedNames, List.mem_append]
  constructor
  · rintro (hname | hname)
    · simp only [List.mem_cons, List.not_mem_nil, or_false] at hname
      rcases hname with rfl | rfl | rfl | rfl
      · exact hmanifest
      · exact hcore .alerts (by decide)
      · exact hcore .states (by decide)
      · exact hcore .audit (by decide)
    · split at hname
      · rename_i hmem
        rwa [List.mem_singleton.1 hname]
      · exact absurd hname List.not_mem_nil
  · intro hname
    rcases (h.names name).1 hname with rfl | ⟨role, hrole, rfl⟩
    · exact .inl List.mem_cons_self
    · cases role with
      | alerts => exact .inl (by simp)
      | states => exact .inl (by simp)
      | audit => exact .inl (by simp)
      | incidents => exact .inr (by rw [if_pos (hincidents.2 hrole)]; exact List.mem_singleton.2 rfl)

theorem mem_entries {e : List Nat × Value} :
    e ∈ m.entries ↔ ∃ info ∈ m.databases, e = (points info.role.text, (sortKeys info.json).value) := by
  rw [Manifest.entries, fieldValues_eq_map, List.mem_map]
  constructor
  · rintro ⟨f, hf, rfl⟩
    rw [(sortedFields_perm _).mem_iff, List.map_map, List.mem_map] at hf
    obtain ⟨info, hinfo, rfl⟩ := hf
    exact ⟨info, hinfo, rfl⟩
  · rintro ⟨info, hinfo, rfl⟩
    refine ⟨(info.role.text, sortKeys info.json), ?_, rfl⟩
    rw [(sortedFields_perm _).mem_iff, List.map_map, List.mem_map]
    exact ⟨info, hinfo, rfl⟩

/-- **A directory that was written as a snapshot verifies.** -/
theorem verify_written (floatIs : String → ℤ → Bool) (h : Written sha256 dir m) :
    ∃ roles, verifyStorageSnapshot sha256 floatIs dir none = .ok ⟨(sortKeys m.json).value, roles⟩ := by
  have hall : ∀ e ∈ m.entries,
      ∃ role : Role, e.1 = points role.text ∧ verifyDatabase sha256 floatIs dir role e.2 = .ok () := by
    intro e he
    obtain ⟨info, hinfo, rfl⟩ := mem_entries.1 he
    exact ⟨info.role, rfl, verifyDatabase_inspected floatIs (h.inspected info hinfo)⟩
  obtain ⟨roles, hroles, hkeys⟩ := verifyDatabases_ok floatIs hall
  have hmem : ∀ role : Role, role ∈ roles ↔ role ∈ m.databases.map (·.role) := by
    intro role
    have hkey : role ∈ roles ↔ points role.text ∈ m.entries.map Prod.fst := by
      rw [hkeys, List.mem_map]
      exact ⟨fun hrole => ⟨role, hrole, rfl⟩, fun ⟨other, hother, heq⟩ => Role.text_inj.1 (points_inj.1 heq) ▸ hother⟩
    rw [hkey, List.mem_map, List.mem_map]
    constructor
    · rintro ⟨e, he, heq⟩
      obtain ⟨info, hinfo, rfl⟩ := mem_entries.1 he
      exact ⟨info, hinfo, Role.text_inj.1 (points_inj.1 heq)⟩
    · rintro ⟨info, hinfo, rfl⟩
      exact ⟨_, mem_entries.2 ⟨info, hinfo, rfl⟩, rfl⟩
  have hcore : (CORE_DB_ROLES.any fun role => (m.entries.lookup (points role.text)).isNone) = false := by
    rw [List.any_eq_false]
    intro role hrole
    obtain ⟨info, hinfo, rfl⟩ := List.mem_map.1 (h.core role hrole)
    have hlookup :=
      (lookup_iff_mem (fieldValues_sorted_keys (m.names_nodup h.nodup))).2 (mem_entries.2 ⟨info, hinfo, rfl⟩)
    rw [Manifest.entries, hlookup, Option.isNone_some]
    exact Bool.false_ne_true
  have hunexpected : ((visible dir).any fun name => decide (name ∉ expectedNames (visible dir))) = false := by
    rw [List.any_eq_false]
    intro name hname
    rw [decide_eq_true_eq, not_not]
    exact (h.mem_expectedNames name).2 hname
  have hmissing : ((expectedNames (visible dir)).any fun name => decide (name ∉ visible dir)) = false := by
    rw [List.any_eq_false]
    intro name hname
    rw [decide_eq_true_eq, not_not]
    exact (h.mem_expectedNames name).1 hname
  have hread := readManifest_text h.fits h.nodup
  have hconsistent : checkCrossDatabaseConsistency (readCopy dir .alerts) (readCopy dir .states)
      (if .incidents ∈ roles then some (readCopy dir .incidents) else none) = .ok m.consistency := by
    simp only [hmem]
    exact h.consistent
  rw [visible] at hunexpected hmissing
  refine ⟨roles, ?_⟩
  rw [verifyStorageSnapshot, fault, Except.ok_bind]
  simp only [hunexpected, hmissing, Bool.false_eq_true, if_false, checkNoSymlink_eq_ok.2 ⟨h.manifest, rfl⟩,
    Except.ok_bind, Bool.not_true, Bool.false_or, ne_eq, not_true_eq_false, decide_false, hread, hcore, hroles, hconsistent]
  rfl

end

end ThreatFusion.Storage
