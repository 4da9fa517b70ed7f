import ThreatFusion.LabHunt.Hunt
/-
# The chain file

* `Hunted.reports`: what a hunt has written is verified, and says which records passed which filters.
* `hunted_iff`: a hunt writes when everything it writes down can be encoded.
* `verify_raises`: the verifier raises on long numbers, deep nesting and what it cannot encode.
* `lab_hunt_chain`: all of it, with what the head commits to.
-/
namespace ThreatFusion.LabHunt
open Py PyJson HashChain
open JsonText (points points_inj skipBlanks)

variable {F : Type}

/-! ## The document -/

section Document

variable {py : Python F} (fixture : Fixture py) (pack : Pack py) (name : Str) (head : String)
  (entries hypotheses : List (Value F))

theorem opened_document : ∃ pairs, Opened (document fixture pack name entries head hypotheses) pairs entries hypotheses ∧
    get pairs "head_sha256" = some (str head) := by
  refine ⟨_, ⟨rfl, ⟨?_, ?_, ?_⟩, ?_, ?_⟩, ?_⟩ <;> simp [get_cons, points_inj, isStr_iff]

variable {entries hypotheses}

theorem distinct_document (he : ∀ e ∈ entries, e.Distinct) (hh : ∀ v ∈ hypotheses, v.Distinct) :
    (document fixture pack name entries head hypotheses).Distinct := by
  have hentries := distinct_arr.mpr he
  have hhypotheses := distinct_arr.mpr hh
  rw [document, distinct_obj]
  refine ⟨nodup_points (by decide : ["chain_path_name", "classification", "entries", "fixture_id", "genesis_sha256",
    "head_sha256", "hypotheses", "pack_id", "schema_version"].Nodup), ?_⟩
  simp only [List.forall_mem_cons, hentries, hhypotheses, List.not_mem_nil, false_implies, implies_true, and_true, true_and]
  exact ⟨trivial, trivial, trivial, trivial, trivial, trivial, trivial⟩

theorem writes_document {d : Nat} : (document fixture pack name entries head hypotheses).writes py (d + 2) = true ↔
    isText name = true ∧ (∀ e ∈ entries, e.writes py d = true) ∧ ∀ v ∈ hypotheses, v.writes py d = true := by
  rw [document, writes_obj]
  simp only [List.forall_mem_cons, isText_points, writes_str, Value.writes, writesItems_eq_all, List.all_eq_true, isText_identifier,
    true_and, and_true, List.not_mem_nil, false_implies, implies_true]

end Document

/-! ## A hunt -/

section Writing

variable {rt : Runtime F} {fixture : Fixture rt.toPython} {pack : Pack rt.toPython} {path file : ChainPath}

def steps (fixture : Fixture rt.toPython) (pack : Pack rt.toPython) : List (Filter rt.toPython × List Identifier) :=
  (snapshots fixture.records pack.filters).1

def hypotheses (fixture : Fixture rt.toPython) (pack : Pack rt.toPython) : List (Value F) :=
  (survivors pack.filters fixture.records).map hypothesis

/-- A hunt that came to its end, with the hashes it computed. -/
structure Hunted (rt : Runtime F) (fixture : Fixture rt.toPython) (pack : Pack rt.toPython) (path file : ChainPath)
    (sha : String) (entries : List (Value F)) (head : String) : Prop where
  allowed : isProductionDatabase path = false ∧ path.isSymlink = false
  hashed : canonicalSha256 rt (.arr (hypotheses fixture pack)) = some sha
  chained : chainEntries rt sha (steps fixture pack).length 1 LAB_CHAIN_GENESIS (steps fixture pack) = some (entries, head)
  written : (document fixture pack path.name entries head (hypotheses fixture pack)).writes rt.toPython rt.writeDepth = true
  file_eq : file = { path with contents := some (encode
    (dumps rt.toPython (document fixture pack path.name entries head (hypotheses fixture pack)))) }

theorem refuse_ok : refuseProductionDatabase path = .ok () ↔ isProductionDatabase path = false ∧ path.isSymlink = false := by
  unfold refuseProductionDatabase
  cases isProductionDatabase path <;> cases path.isSymlink <;> simp

theorem orRaise_ok {α : Type} {o : Option α} {a : α} : orRaise o = .ok a ↔ o = some a := by cases o <;> simp [orRaise]

theorem canonicalJson_some {value : Value F} {text : List Char} : canonicalJson rt value = some text ↔
    value.writes rt.toPython rt.writeDepth = true ∧ text = dumps rt.toPython value := by
  unfold canonicalJson
  split_ifs with h
  · rw [Option.some.injEq]
    exact ⟨fun heq => ⟨h, heq.symm⟩, fun heq => heq.2.symm⟩
  · exact ⟨fun heq => (by cases heq), fun heq => absurd heq.1 h⟩

theorem hunt_ok : (∃ result, hunt rt fixture pack path = .ok (file, result)) ↔
    ∃ sha entries head, Hunted rt fixture pack path file sha entries head := by
  have hsnapshots : snapshots fixture.records pack.filters = (steps fixture pack, survivors pack.filters fixture.records) :=
    Prod.ext rfl (snapshots_final ..)
  unfold hunt
  rw [hsnapshots]
  simp only [writeChain, Except.bind_eq_ok, orRaise_ok, canonicalJson_some, Except.ok.injEq, Prod.mk.injEq, Prod.exists]
  constructor
  · rintro ⟨result, u, hallowed, sha, hsha, entries, head, hchain, file', ⟨-, -, text, ⟨hwrites, rfl⟩, hfile⟩, hfile', -⟩
    exact ⟨sha, entries, head, refuse_ok.mp hallowed, hsha, hchain, hwrites, by rw [← hfile', ← hfile]; rfl⟩
  · rintro ⟨sha, entries, head, hallowed, hsha, hchain, hwrites, hfile⟩
    have hrefuse := refuse_ok.mpr hallowed
    exact ⟨_, (), hrefuse, sha, hsha, entries, head, hchain, _, ⟨(), hrefuse, _, ⟨hwrites, rfl⟩, hfile.symm⟩, rfl, rfl⟩

/-- What the document says: step by step the ids that survived, and the records that passed all filters. -/
structure Says (fixture : Fixture rt.toPython) (pack : Pack rt.toPython) (pairs : List (Str × Value F))
    (entries : List (Value F)) : Prop where
  entries_eq : get pairs "entries" = some (.arr entries)
  length_eq : entries.length = pack.filters.length
  survivors_eq : ∀ i < pack.filters.length, ∃ entry, entries[i]? = some (.obj entry) ∧
    get entry "surviving_record_ids" =
      some (.arr ((survivingIds (pack.filters.take (i + 1)) fixture.records).map fun j => .str j.1))
  hypotheses_eq : get pairs "hypotheses" = some (.arr ((hypotheses fixture pack).map sortKeys))

/-- The file is verified, and says what the hunt has found. -/
def Reports (rt : Runtime F) (fixture : Fixture rt.toPython) (pack : Pack rt.toPython) (file : ChainPath) : Prop :=
  verifyLabHashChain rt file = some true ∧
    ∃ pairs entries, loadDocument rt file = .ok (.obj pairs) ∧ Says fixture pack pairs entries

theorem load_written {value : Value F} {d : Nat} (hdistinct : value.Distinct) (hwrites : value.writes rt.toPython d = true)
    (hd : d ≤ rt.readDepth) (hfile : file.contents = some (encode (dumps rt.toPython value))) :
    loadDocument rt file = .ok (sortKeys value) := by
  have htext : readText file = some (dumps rt.toPython value) := by
    rw [readText, hfile, Option.bind_some, decodeUtf8_encode, Option.map_some,
      universalNewlines_of_not_mem (dumps_return hwrites)]
  rw [loadDocument, htext]
  dsimp only
  rw [loads_dumps hdistinct (writes_mono value hd hwrites)]

theorem forall_hypotheses {P : Value F → Prop} (h : ∀ record : Record rt.toPython, P (hypothesis record)) :
    ∀ v ∈ hypotheses fixture pack, P v := by
  intro v hv
  obtain ⟨record, -, rfl⟩ := List.mem_map.mp hv
  exact h record

theorem isHypothesis_hypothesis (record : Record rt.toPython) : isHypothesis (hypothesis record) = true := by
  simp [isHypothesis, hypothesis, get_cons, points_inj, isStr_iff]

namespace Hunted

variable {sha head : String} {entries : List (Value F)}

theorem built (h : Hunted rt fixture pack path file sha entries head) :
    Built rt sha (steps fixture pack).length 1 LAB_CHAIN_GENESIS (steps fixture pack) entries head :=
  chainEntries_built h.chained

theorem survivors_encode (h : Hunted rt fixture pack path file sha entries head) :
    ∀ record ∈ survivors pack.filters fixture.records, record.Encodes := by
  obtain ⟨d, hd⟩ : ∃ d, rt.writeDepth = d + 2 + 2 := ⟨rt.writeDepth - 4, by have := rt.writesDocument; omega⟩
  have hwritten := h.written
  rw [hd, writes_document] at hwritten
  intro record hrecord
  exact (writes_hypothesis record d).mp (hwritten.2.2 _ (List.mem_map_of_mem hrecord))

/-- The document fits in four levels of brackets. -/
theorem shallow (h : Hunted rt fixture pack path file sha entries head) :
    (document fixture pack path.name entries head (hypotheses fixture pack)).writes rt.toPython 4 = true := by
  obtain ⟨d, hd⟩ : ∃ d, rt.writeDepth = d + 2 := ⟨rt.writeDepth - 2, by have := rt.writesDocument; omega⟩
  have hwritten := h.written
  rw [hd, writes_document] at hwritten
  refine (writes_document ..).mpr ⟨hwritten.1, fun e he => (h.built.plain e he).2, fun v hv => ?_⟩
  obtain ⟨record, hrecord, rfl⟩ := List.mem_map.mp hv
  exact (writes_hypothesis record 0).mpr (h.survivors_encode record hrecord)

theorem distinct (h : Hunted rt fixture pack path file sha entries head) :
    (document fixture pack path.name entries head (hypotheses fixture pack)).Distinct :=
  distinct_document _ _ _ _ (fun e he => (h.built.plain e he).1) (forall_hypotheses distinct_hypothesis)

theorem load (h : Hunted rt fixture pack path file sha entries head) :
    loadDocument rt file = .ok (sortKeys (document fixture pack path.name entries head (hypotheses fixture pack))) :=
  load_written h.distinct h.shallow rt.readsDocument (by rw [h.file_eq])

theorem verified (h : Hunted rt fixture pack path file sha entries head) (hne : pack.filters ≠ []) :
    verifyLabHashChain rt file = some true := by
  have hb := h.built
  have hsteps : steps fixture pack ≠ [] := by
    intro hnil
    have hfilters := snapshots_filters pack.filters fixture.records
    exact hne (by rw [← hfilters]; exact List.map_eq_nil_iff.mpr hnil)
  obtain ⟨pairs, hopened, hhead⟩ := opened_document fixture pack path.name head entries (hypotheses fixture pack)
  have hverified : Verified rt pairs entries (hypotheses fixture pack) := by
    refine ⟨?_, hb.chain, ?_, ⟨sha, h.hashed, ?_⟩, ?_⟩
    · rintro rfl
      cases hsteps' : steps fixture pack with
      | nil => exact hsteps hsteps'
      | cons s ss =>
        have htells := hb.tells
        rw [hsteps'] at htells
        cases htells
    · rw [headDigest, hb.head_eq, hhead, isStr_iff]
    · rw [hb.hashed hsteps (Nat.add_comm _ _), isStr_iff]
    · exact List.all_eq_true.mpr (forall_hypotheses isHypothesis_hypothesis)
  have hok := verified_sortKeys h.distinct hopened hverified
  have hproduction : isProductionDatabase file = false := by
    rw [h.file_eq]
    exact h.allowed.1
  have hsymlink : file.isSymlink = false := by
    rw [h.file_eq]
    exact h.allowed.2
  have hcontents : file.contents.isNone = false := by rw [h.file_eq]; rfl
  rw [verifyLabHashChain, hproduction, hsymlink, hcontents, h.load, Except.ok_bind, hok]
  rfl

theorem found (h : Hunted rt fixture pack path file sha entries head) :
    ∃ pairs, loadDocument rt file = .ok (.obj pairs) ∧ Says fixture pack pairs (entries.map sortKeys) := by
  have hb := h.built
  have hd := h.distinct
  obtain ⟨pairs, hopened, -⟩ := opened_document fixture pack path.name head entries (hypotheses fixture pack)
  have hload := h.load
  rw [hopened.object] at hload hd
  have hlength : entries.length = pack.filters.length := by
    rw [← hb.tells.length_eq]
    exact length_snapshots ..
  rw [sortKeys_obj] at hload
  refine ⟨_, hload, ?_, by rw [List.length_map, hlength], fun i hi => ?_, ?_⟩
  · rw [get_sorted hd, hopened.entries, Option.map_some, sortKeys_arr]
  · -- the `i`-th snapshot, and the entry that tells it
    have hsnap := snapshots_spec pack.filters fixture.records i
    rw [List.getElem?_eq_getElem hi, Option.map_some] at hsnap
    have hi' : i < entries.length := by omega
    have htell : Tells (pack.filters[i], survivingIds (pack.filters.take (i + 1)) fixture.records) entries[i] := by
      have hget := (List.forall₂_iff_get.mp hb.tells).2 i (by rw [hb.tells.length_eq]; exact hi') hi'
      have hstep : (steps fixture pack).get ⟨i, by rw [hb.tells.length_eq]; exact hi'⟩ =
          (pack.filters[i], survivingIds (pack.filters.take (i + 1)) fixture.records) := by
        have heq := List.getElem?_eq_some_iff.mp hsnap
        exact heq.2
      rw [hstep] at hget
      exact hget
    obtain ⟨entry, hentry, -, hids⟩ := htell
    have hentryd : (Value.obj entry).Distinct := by
      rw [← hentry]
      exact (hb.plain _ (List.getElem_mem hi')).1
    refine ⟨sortedByKey (entry.map fun p => (p.1, sortKeys p.2)), ?_, ?_⟩
    · rw [List.getElem?_map, List.getElem?_eq_getElem hi', hentry, Option.map_some, sortKeys_obj]
    · rw [get_sorted hentryd, hids, Option.map_some, sortKeys_arr, List.map_map]
      rfl
  · rw [get_sorted hd, hopened.hypotheses, Option.map_some, sortKeys_arr]

theorem reports (h : Hunted rt fixture pack path file sha entries head) (hne : pack.filters ≠ []) :
    Reports rt fixture pack file := by
  obtain ⟨pairs, hload, hsays⟩ := h.found
  exact ⟨h.verified hne, pairs, _, hload, hsays⟩

end Hunted

/-- All that is written down can be encoded. -/
structure Encodable (fixture : Fixture rt.toPython) (pack : Pack rt.toPython) (name : Str) : Prop where
  name : isText name = true
  filters : ∀ filt ∈ pack.filters, filt.Encodes
  survivors : ∀ record ∈ survivors pack.filters fixture.records, record.Encodes
  count : isShort pack.filters.length = true

theorem hunted_iff : (∃ file sha entries head, Hunted rt fixture pack path file sha entries head) ↔
    (isProductionDatabase path = false ∧ path.isSymlink = false) ∧ Encodable fixture pack path.name := by
  have hlength : (steps fixture pack).length = pack.filters.length := length_snapshots ..
  have hfilters : (steps fixture pack).map Prod.fst = pack.filters := snapshots_filters ..
  constructor
  · rintro ⟨file, sha, entries, head, h⟩
    have hb := h.built
    have hshallow := h.shallow
    rw [writes_document] at hshallow
    refine ⟨h.allowed, hshallow.1, ?_, h.survivors_encode, ?_⟩
    · rw [← hfilters]
      exact List.forall_mem_map.mpr hb.encodes
    · -- the last entry has been numbered
      cases hn : pack.filters.length with
      | zero => decide
      | succ n =>
        have hlast := hb.short n (by omega)
        rwa [Nat.add_comm] at hlast
  · rintro ⟨hallowed, hname, hencodes, hsurvivors, hcount⟩
    have hrows {d : Nat} : ∀ v ∈ hypotheses fixture pack, v.writes rt.toPython (d + 2) = true := by
      intro v hv
      obtain ⟨record, hrecord, rfl⟩ := List.mem_map.mp hv
      exact (writes_hypothesis record d).mpr (hsurvivors record hrecord)
    obtain ⟨d, hd⟩ : ∃ d, rt.writeDepth = d + 2 + 2 := ⟨rt.writeDepth - 4, by have := rt.writesDocument; omega⟩
    have hhashed : (canonicalSha256 rt (.arr (hypotheses fixture pack))).isSome := by
      rw [canonicalSha256_isSome, hd, writes_arr]
      exact hrows
    obtain ⟨sha, hsha⟩ := Option.isSome_iff_exists.mp hhashed
    have hchained : ∃ r, chainEntries rt sha (steps fixture pack).length 1 LAB_CHAIN_GENESIS (steps fixture pack) = some r := by
      refine exists_chainEntries (fun step hstep => ?_) fun i hi => isShort_mono (by omega) hcount
      rw [← hfilters] at hencodes
      exact hencodes _ (List.mem_map_of_mem hstep)
    obtain ⟨⟨entries, head⟩, hchain⟩ := hchained
    have hb := chainEntries_built hchain
    refine ⟨_, sha, entries, head, hallowed, hsha, hchain, ?_, rfl⟩
    rw [hd, writes_document]
    exact ⟨hname, fun e he => writes_mono e (by omega) (hb.plain e he).2, hrows⟩

theorem validateFilters_ne_nil {py : Python F} {seen : List Identifier} {first : Value F} {rest : List (Value F)}
    {filters : List (Filter py)} (h : validateFilters py seen (first :: rest) = .ok filters) : filters ≠ [] := by
  rintro rfl
  unfold validateFilters at h
  split at h
  · rename_i heq
    cases heq
  · split_ifs at h
    obtain ⟨stepId, -, h⟩ := Except.bind_eq_ok.mp h
    split_ifs at h
    obtain ⟨field, -, h⟩ := Except.bind_eq_ok.mp h
    obtain ⟨equals, -, h⟩ := Except.bind_eq_ok.mp h
    obtain ⟨later, -, h⟩ := Except.bind_eq_ok.mp h
    cases h
  · cases h

/-- An accepted pack has a filter. -/
theorem validatePack_ne_nil {py : Python F} {value : Value F} {pack : Pack py} (h : validatePack py value = .ok pack) :
    pack.filters ≠ [] := by
  unfold validatePack at h
  split at h
  · split_ifs at h
    obtain ⟨packId, -, h⟩ := Except.bind_eq_ok.mp h
    split at h
    · obtain ⟨filters, hfilters, h⟩ := Except.bind_eq_ok.mp h
      obtain rfl := Except.ok.inj h
      exact validateFilters_ne_nil hfilters
    · cases h
  · cases h

end Writing

/-! ## The verifier -/

section Verifying

variable {rt : Runtime F} {path path' : ChainPath} {document document' : Value F} {text : List Char}

/-- The verifier gets to the text of the file. -/
structure Reads (path : ChainPath) (text : List Char) : Prop where
  allowed : isProductionDatabase path = false ∧ path.isSymlink = false
  text_eq : readText path = some text

/-- A number has too many digits, too many brackets are open, or a value that is hashed on the way cannot be encoded. -/
def Raises (rt : Runtime F) (path : ChainPath) : Prop :=
  ∃ text, Reads path text ∧ (loads rt.toPython text = .error .longNumber ∨ loads rt.toPython text = .error .tooDeep ∨
    ∃ document pairs entries hypotheses, loads rt.toPython text = .ok document ∧
      Opened document pairs entries hypotheses ∧ Trips rt pairs entries hypotheses)

variable (rt path) in
theorem reads_of_not_refused (h : verifyLabHashChain rt path ≠ some false) : ∃ text, Reads path text := by
  unfold verifyLabHashChain at h
  split_ifs at h with hguard
  · exact absurd rfl h
  rw [Bool.or_eq_true, Bool.or_eq_true, not_or, not_or, Bool.not_eq_true, Bool.not_eq_true] at hguard
  cases htext : readText path with
  | some text => exact ⟨text, ⟨hguard.1.1, hguard.1.2⟩, htext⟩
  | none =>
    rw [loadDocument, htext] at h
    exact absurd rfl h

theorem verify_eq (h : Reads path text) :
    (verifyLabHashChain rt path = some true ↔ (loadDocument rt path >>= verifyDocument rt) = .ok ()) ∧
    (verifyLabHashChain rt path = none ↔ (loadDocument rt path >>= verifyDocument rt) = .error .raised) := by
  obtain ⟨⟨hproduction, hsymlink⟩, htext⟩ := h
  have hcontents : path.contents.isNone = false := by
    cases hc : path.contents with
    | none =>
      rw [readText, hc] at htext
      cases htext
    | some b => rfl
  rw [verifyLabHashChain, hproduction, hsymlink, hcontents, Bool.or_self, Bool.or_self, if_neg Bool.false_ne_true]
  cases loadDocument rt path >>= verifyDocument rt with
  | ok u => simp
  | error stop => cases stop <;> simp

theorem loadDocument_ok (h : Reads path text) : loadDocument rt path = .ok document ↔ loads rt.toPython text = .ok document := by
  rw [loadDocument, h.text_eq]
  dsimp only
  cases loads rt.toPython text with
  | ok v => simp
  | error fault => cases fault <;> simp

theorem loadDocument_raised (h : Reads path text) : loadDocument rt path = .error .raised ↔
    loads rt.toPython text = .error .longNumber ∨ loads rt.toPython text = .error .tooDeep := by
  have hfuel : loads rt.toPython text ≠ .error .outOfFuel := loads_fuel text
  rw [loadDocument, h.text_eq]
  dsimp only
  cases hloads : loads rt.toPython text with
  | ok v => simp
  | error fault =>
    cases fault with
    | outOfFuel => exact absurd hloads hfuel
    | malformed => simp
    | longNumber => simp
    | tooDeep => simp

/-- **When the verifier raises.** -/
theorem verify_raises : verifyLabHashChain rt path = none ↔ Raises rt path := by
  constructor
  · intro h
    obtain ⟨text, hreads⟩ := reads_of_not_refused rt path (by rw [h]; exact fun heq => (by cases heq))
    refine ⟨text, hreads, ?_⟩
    rcases bind_raised.mp ((verify_eq hreads).2.mp h) with hload | ⟨document, hload, hverify⟩
    · exact ((loadDocument_raised hreads).mp hload).imp_right Or.inl
    · obtain ⟨pairs, entries, hypotheses, hopened, htrips⟩ := verifyDocument_raised.mp hverify
      exact .inr (.inr ⟨document, pairs, entries, hypotheses, (loadDocument_ok hreads).mp hload, hopened, htrips⟩)
  · rintro ⟨text, hreads, h⟩
    rw [(verify_eq hreads).2, bind_raised]
    rcases h with hlong | hdeep | ⟨document, pairs, entries, hypotheses, hload, hopened, htrips⟩
    · exact .inl ((loadDocument_raised hreads).mpr (.inl hlong))
    · exact .inl ((loadDocument_raised hreads).mpr (.inr hdeep))
    · refine .inr ⟨document, (loadDocument_ok hreads).mpr hload, ?_⟩
      exact verifyDocument_raised.mpr ⟨pairs, entries, hypotheses, hopened, htrips⟩

/-- What an accepted file holds; no dict in it has a key twice. -/
theorem verify_accepts (h : verifyLabHashChain rt path = some true) (hload : loadDocument rt path = .ok document) :
    document.Distinct ∧ ∃ pairs entries hypotheses, Opened document pairs entries hypotheses ∧
      Verified rt pairs entries hypotheses := by
  obtain ⟨text, hreads⟩ := reads_of_not_refused rt path (by rw [h]; exact fun heq => (by cases heq))
  have hok := (verify_eq hreads).1.mp h
  rw [hload, Except.ok_bind] at hok
  exact ⟨loads_distinct ((loadDocument_ok hreads).mp hload), verifyDocument_ok.mp hok⟩

def headOf : Value F → Option (Value F)
  | .obj pairs => get pairs "head_sha256"
  | _ => none

/-- The same entries, one by one in all that is hashed, and the same hypotheses, up to the order of keys. -/
def SameChain (document document' : Value F) : Prop :=
  ∃ pairs entries hypotheses pairs' entries' hypotheses', Opened document pairs entries hypotheses ∧
    Opened document' pairs' entries' hypotheses' ∧ List.Forall₂ SameEntry entries entries' ∧
    hypotheses.map sortKeys = hypotheses'.map sortKeys

/-- **The head commits to what an accepted file says.** -/
theorem same_of_head (h : verifyLabHashChain rt path = some true) (h' : verifyLabHashChain rt path' = some true)
    (hload : loadDocument rt path = .ok document) (hload' : loadDocument rt path' = .ok document')
    (hhead : headOf document = headOf document') : SameChain document document' := by
  obtain ⟨hd, pairs, entries, hypotheses, hopened, hverified⟩ := verify_accepts h hload
  obtain ⟨hd', pairs', entries', hypotheses', hopened', hverified'⟩ := verify_accepts h' hload'
  have hobj := hopened.object
  have hobj' := hopened'.object
  subst hobj hobj'
  obtain ⟨hentries, hrows⟩ := hverified.same hverified' (distinct_entries hd hopened.entries)
    (distinct_entries hd' hopened'.entries) (distinct_entries hd hopened.hypotheses)
    (distinct_entries hd' hopened'.hypotheses) hhead
  exact ⟨pairs, entries, hypotheses, pairs', entries', hypotheses', hopened, hopened', hentries, hrows⟩

theorem starts_bracket : JsonText.Starts '[' := ⟨by decide, by decide, by decide⟩

theorem readValue_brackets {py : Python F} (n d : Nat) :
    readValue py (n + 2 * d + 1) d (List.replicate (d + 1) '[') = .error .tooDeep := by
  induction d with
  | zero => rfl
  | succ d ih =>
    have hfuel : n + 2 * (d + 1) + 1 = (n + 2 * d + 1) + 1 + 1 := by omega
    have hskip : skipBlanks (List.replicate (d + 1) '[') = '[' :: List.replicate d '[' :=
      JsonText.skipBlanks_of_starts starts_bracket _
    rw [hfuel, List.replicate_succ, readValue, hskip]
    split
    · rename_i heq
      exact absurd (List.cons.inj heq).1 (by decide)
    · rw [readItems, ← List.replicate_succ, ih]
      rfl

/-- Brackets without end. -/
def deepFile (rt : Runtime F) (path : ChainPath) : ChainPath :=
  { path with contents := some (encode (List.replicate (rt.readDepth + 1) '[')) }

theorem deepFile_raises (hproduction : isProductionDatabase path = false) (hsymlink : path.isSymlink = false) :
    verifyLabHashChain rt (deepFile rt path) = none := by
  have hreturn : '\r' ∉ List.replicate (rt.readDepth + 1) '[' := fun h => by
    have heq := (List.mem_replicate.mp h).2
    cases heq
  have hskip : skipBlanks (List.replicate (rt.readDepth + 1) '[') = List.replicate (rt.readDepth + 1) '[' :=
    JsonText.skipBlanks_of_starts starts_bracket _
  refine verify_raises.mpr ⟨List.replicate (rt.readDepth + 1) '[', ⟨⟨hproduction, hsymlink⟩, ?_⟩, .inr (.inl ?_)⟩
  · rw [readText, deepFile, Option.bind_some, decodeUtf8_encode, Option.map_some, universalNewlines_of_not_mem hreturn]
  · have hfuel : 2 * (List.replicate (rt.readDepth + 1) '[').length + 2 = 3 + 2 * rt.readDepth + 1 := by
      rw [List.length_replicate]
      omega
    rw [loads, hskip, hfuel, readValue_brackets]

/-- **The lab hunt chain.** A run on an accepted fixture and pack writes a file that is verified and says what passed if
and only if it is let write there and all that it writes down can be encoded; the verifier answers every file but those
it raises on; and the head of an accepted file commits to its entries and hypotheses. -/
theorem lab_hunt_chain (rt : Runtime F) :
    (∀ (fixture pack : Value F) (path : ChainPath) (allowNetwork : Bool) (f : Fixture rt.toPython) (p : Pack rt.toPython),
      validateFixture rt.toPython fixture = .ok f → validatePack rt.toPython pack = .ok p →
      ((∃ file result, runLabHuntPack rt fixture pack path allowNetwork = .ok (file, result) ∧ Reports rt f p file) ↔
        allowNetwork = false ∧ (isProductionDatabase path = false ∧ path.isSymlink = false) ∧ Encodable f p path.name)) ∧
    (∀ path, (∃ b, verifyLabHashChain rt path = some b) ↔ ¬ Raises rt path) ∧
    ∀ path path' document document', verifyLabHashChain rt path = some true → verifyLabHashChain rt path' = some true →
      loadDocument rt path = .ok document → loadDocument rt path' = .ok document' → headOf document = headOf document' →
      SameChain document document' := by
  refine ⟨fun fixture pack path allowNetwork f p hf hp => ?_, fun path => ?_, fun _ _ _ _ => same_of_head⟩
  · have hne := validatePack_ne_nil hp
    rw [← hunted_iff]
    unfold runLabHuntPack
    cases allowNetwork with
    | true => simp
    | false =>
      rw [if_neg Bool.false_ne_true, hf, Except.ok_bind, hp, Except.ok_bind]
      constructor
      · rintro ⟨file, result, hhunt, -⟩
        exact ⟨rfl, file, hunt_ok.mp ⟨result, hhunt⟩⟩
      · rintro ⟨-, file, sha, entries, head, h⟩
        obtain ⟨result, hhunt⟩ := hunt_ok.mpr ⟨sha, entries, head, h⟩
        exact ⟨file, result, hhunt, h.reports hne⟩
  · rw [← verify_raises, ← Option.isSome_iff_exists, ← Option.not_isSome_iff_eq_none, not_not]
end Verifying

/-! ## A surrogate alone -/

/-- An interpreter; floats are left out. -/
def plainRuntime : Runtime Unit where
  value := fun _ => none
  repr := fun _ => []
  parse := fun _ => ()
  readDepth := 990
  writeDepth := 990
  repr_text := fun _ h => absurd h (by decide)
  parse_repr := fun _ _ => rfl
  sha256 := fun data => String.ofList (data.map fun b => Char.ofNat b.toNat)
  sha256_inj := by
    intro a b h
    have hlists := String.ofList_injective h
    refine List.map_injective_iff.mpr (fun x y hxy => ?_) hlists
    have hvalid (z : UInt8) : (Char.ofNat z.toNat).toNat = z.toNat :=
      toNat_ofNat (.inl (Nat.lt_of_lt_of_le z.toNat_lt (by decide)))
    have hnat := congrArg Char.toNat hxy
    rw [hvalid, hvalid] at hnat
    exact UInt8.toNat_inj.mp hnat
  readsDocument := by decide
  writesDocument := by decide

def surrogateFixture : Value Unit := .obj [
  (points "schema_version", str LAB_FIXTURE_SCHEMA_VERSION), (points "fixture_id", str "f1"),
  (points "source", str "local_replay"),
  (points "records", .arr [.obj [(points "record_id", str "r1"), (points "actor", .str [0xD800])]])]

def oneFilterPack : Value Unit := .obj [
  (points "schema_version", str LAB_PACK_SCHEMA_VERSION), (points "pack_id", str "p1"),
  (points "filters", .arr [.obj [(points "step_id", str "s1"), (points "field", str "record_id"),
    (points "equals", str "r1")]])]

def chainFile : ChainPath := ⟨points "/lab/chain.json", points "chain.json", false, none⟩

/-- The fixture and the pack are accepted, and nothing is written; and there is a file on which the verifier raises. -/
theorem accepted_not_written :
    (∃ f p, validateFixture plainRuntime.toPython surrogateFixture = .ok f ∧
      validatePack plainRuntime.toPython oneFilterPack = .ok p) ∧
    runLabHuntPack plainRuntime surrogateFixture oneFilterPack chainFile false = .error .canonical ∧
    verifyLabHashChain plainRuntime (deepFile plainRuntime chainFile) = none :=
  ⟨⟨_, _, rfl, rfl⟩, rfl, deepFile_raises (by decide) rfl⟩

end ThreatFusion.LabHunt
