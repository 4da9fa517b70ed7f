import ThreatFusion.Advisory.Explanation
/-
# When an explanation is grounded

The template is put together from constant texts and pieces of the evidence. The constants name no address and keep the
pieces apart (`isBetween`), so the addresses of a text of the template are those of its pieces (`mentions_headline` and
so on), and the checks for citations, version, probability and authority always pass (`template_verified`).

`grounded_iff`: the engine's explanation is grounded exactly when the pieces name inspected entities only or, when it
is a candidate that the checker has accepted, when its IPv6 addresses are inspected. The checker does not look for
these, and nothing looks at the template.
-/
namespace ThreatFusion.Advisory
open Py

/-! ## Constants between pieces -/

def Mentions (L : Language) (text : String) (token : List Char) : Prop := token ∈ literals L.letter text.toList

def isSeparator (c : Char) : Bool := [' ', '(', ')', ',', '='].contains c

/-- Too few dots and colons for an address. -/
def isPlain (k : List Char) : Bool := k.count '.' < 3 && k.count ':' < 2

/-- A constant at the end of a text, apart from what is before it. -/
def isClosing (k : List Char) : Bool := isPlain k && k.head?.any isSeparator

/-- A constant at the start of a text, apart from what is behind it. -/
def isOpening (k : List Char) : Bool := isPlain k && k.getLast?.any isSeparator

def isBetween (k : List Char) : Bool := isClosing k && isOpening k

/-- A literal unifies with the list of its characters, so the check runs on a list. -/
theorem on_literal {p : List Char → Bool} {k : List Char} (h : p k = true) : p (String.ofList k).toList = true := by
  rwa [String.toList_ofList]

variable {L : Language} {token : List Char}

theorem isGap_of_isSeparator {c : Char} (h : isSeparator c = true) : isGap L.letter c = true := by
  simp only [isSeparator, List.contains_eq_mem, List.mem_cons, List.not_mem_nil, or_false, decide_eq_true_eq] at h
  rcases h with rfl | rfl | rfl | rfl | rfl <;> rfl

theorem isPlain_iff {k : List Char} : isPlain k = true ↔ k.count '.' < 3 ∧ k.count ':' < 2 := by
  rw [isPlain, Bool.and_eq_true, decide_eq_true_eq, decide_eq_true_eq]

theorem not_mentions_plain {k : String} (h : isPlain k.toList = true) : ¬ Mentions L k token := by
  rw [Mentions, literals_eq_nil (isPlain_iff.mp h).1 (isPlain_iff.mp h).2]
  exact List.not_mem_nil

/-- A part of a plain constant names no address. -/
theorem part_plain {k m : List Char} (h : isPlain k = true) (hm : List.Sublist m k) :
    literals L.letter m = [] :=
  literals_eq_nil (Nat.lt_of_le_of_lt (hm.count_le _) (isPlain_iff.mp h).1)
    (Nat.lt_of_le_of_lt (hm.count_le _) (isPlain_iff.mp h).2)

theorem mentions_start {k : String} (h : isOpening k.toList = true) (a : String) :
    Mentions L (k ++ a) token ↔ Mentions L a token := by
  obtain ⟨hplain, hend⟩ := Bool.and_eq_true_iff.mp h
  obtain ⟨c, hlast, hc⟩ := (Option.any_eq_true ..).mp hend
  obtain ⟨m, hk⟩ := List.getLast?_eq_some_iff.mp hlast
  have hm : literals L.letter m = [] := part_plain hplain (hk ▸ List.sublist_append_left m [c])
  unfold Mentions
  rw [String.toList_append, hk, List.append_assoc, List.singleton_append, mem_literals_gap (isGap_of_isSeparator hc),
    hm, or_iff_right List.not_mem_nil]

theorem mentions_end {k : String} (h : isClosing k.toList = true) (a : String) :
    Mentions L (a ++ k) token ↔ Mentions L a token := by
  obtain ⟨hplain, hstart⟩ := Bool.and_eq_true_iff.mp h
  obtain ⟨c, hhead, hc⟩ := (Option.any_eq_true ..).mp hstart
  obtain ⟨m, hk⟩ := List.head?_eq_some_iff.mp hhead
  have hm : literals L.letter m = [] := part_plain hplain (hk ▸ List.sublist_cons_self c m)
  unfold Mentions
  rw [String.toList_append, hk, mem_literals_gap (isGap_of_isSeparator hc), hm, or_iff_left List.not_mem_nil]

theorem mentions_dot (a : String) : Mentions L (a ++ ".") token ↔ Mentions L a token := by
  unfold Mentions
  rw [String.toList_append]
  exact iff_of_eq (congrArg (token ∈ ·) (literals_dot _))

/-- A constant in between, apart on both sides. -/
theorem mentions_between {k : String} (h : isBetween k.toList = true) (a b : String) :
    Mentions L (a ++ k ++ b) token ↔ Mentions L a token ∨ Mentions L b token := by
  obtain ⟨hclosing, hopening⟩ := Bool.and_eq_true_iff.mp h
  obtain ⟨hplain, hstart⟩ := Bool.and_eq_true_iff.mp hclosing
  obtain ⟨-, hend⟩ := Bool.and_eq_true_iff.mp hopening
  obtain ⟨c, hhead, hc⟩ := (Option.any_eq_true ..).mp hstart
  obtain ⟨rest, hk⟩ := List.head?_eq_some_iff.mp hhead
  have hgap := isGap_of_isSeparator (L := L) hc
  have hsplit : (a ++ k ++ b).toList = a.toList ++ c :: (rest ++ b.toList) := by
    rw [String.toList_append, String.toList_append, hk, List.append_assoc, List.cons_append]
  rw [Mentions, hsplit, mem_literals_gap hgap]
  refine or_congr_right ?_
  rcases List.eq_nil_or_concat rest with rfl | ⟨m, d, hrest⟩
  · rfl
  · rw [List.concat_eq_append] at hrest
    subst hrest
    obtain ⟨d', hlast, hd⟩ := (Option.any_eq_true ..).mp hend
    have hlast' : k.toList.getLast? = some d := by
      rw [hk, ← List.cons_append, List.getLast?_concat]
    obtain rfl := Option.some.inj (hlast'.symm.trans hlast)
    have hm : literals L.letter m = [] := by
      refine part_plain hplain ?_
      rw [hk]
      exact (List.sublist_append_left m [d]).trans (List.sublist_cons_self c _)
    rw [List.append_assoc, List.singleton_append, mem_literals_gap (isGap_of_isSeparator hd), hm,
      or_iff_right List.not_mem_nil]
    rfl

theorem not_mentions_fixed (n : Nat) (x : Double) : ¬ Mentions L (L.fixed n x) token := by
  obtain ⟨hdots, hcolon⟩ := L.fixed_plain n x
  refine not_mentions_plain (isPlain_iff.mpr ⟨by omega, ?_⟩)
  rw [List.count_eq_zero.mpr hcolon]
  exact Nat.zero_lt_two

theorem exists_mem_append {α : Type} {P : α → Prop} (as bs : List α) :
    (∃ x ∈ as ++ bs, P x) ↔ (∃ x ∈ as, P x) ∨ ∃ x ∈ bs, P x := by
  simp only [List.mem_append, or_and_right, exists_or]

theorem exists_mem_singleton {α : Type} {P : α → Prop} (a : α) : (∃ x ∈ [a], P x) ↔ P a := by
  simp only [List.mem_singleton, exists_eq_left]

/-- The items of a joined text keep apart. -/
theorem mentions_intercalate {k : String} (h : isBetween k.toList = true) (texts : List String) :
    Mentions L (k.intercalate texts) token ↔ ∃ text ∈ texts, Mentions L text token := by
  induction texts with
  | nil =>
    have hempty : ¬ Mentions L "" token := not_mentions_plain rfl
    simp [hempty]
  | cons text rest ih =>
    cases rest with
    | nil => simp
    | cons next rest =>
      rw [String.intercalate_cons_of_ne_nil (List.cons_ne_nil next rest), mentions_between h, ih]
      simp only [List.mem_cons, exists_eq_or_imp]

/-! ## The pieces of the template -/

def signalPieces (s : String × Signal) : List String :=
  s.1 :: match s.2 with
    | .float _ => []
    | .other text => [text]

def hitPieces (hit : Hit) : List String := [hit.techniqueId.text, hit.techniqueName.text, hit.firstStep]

def enrichmentPieces (result : EnrichmentEvidence) : List String := result.status :: result.inspectedEntities

/-- What the template copies from the evidence. -/
def pieces (bundle : AdvisoryEvidenceBundle) : List String :=
  [candidateShort bundle, bundle.rfModelVersion, bundle.correlationStatus] ++ bundle.incident.toList ++
    (topSignals bundle).flatMap signalPieces ++ bundle.enrichmentResult.toList.flatMap enrichmentPieces ++
    bundle.chromaRagHits.head?.toList.flatMap hitPieces

/-- The text fields of an explanation. -/
def EvidenceBoundExplanation.texts (e : EvidenceBoundExplanation) : List String :=
  [e.summaryHeadline, e.detectionRationale, e.complementarityAndFusionNote, e.correlationAndEnrichmentContext] ++
    e.recommendedAnalystChecks

section Template

variable (bundle : AdvisoryEvidenceBundle)

theorem mentions_headline : Mentions L (headline bundle) token ↔
    Mentions L (candidateShort bundle) token ∨ Mentions L bundle.rfModelVersion token := by
  have hend : isClosing ")".toList = true := on_literal rfl
  have hbetween : isBetween " (".toList = true := on_literal rfl
  have hstart : isOpening "Advisory SOC Triage Debrief: Alert candidate ".toList = true := on_literal rfl
  unfold headline
  refine (mentions_end hend _).trans ((mentions_between hbetween _ _).trans ?_)
  exact or_congr_left (mentions_start hstart _)

theorem mentions_signal (s : String × Signal) : Mentions L (s.1 ++ "=" ++ signalValue L s.2) token ↔
    ∃ piece ∈ signalPieces s, Mentions L piece token := by
  have hbetween : isBetween "=".toList = true := on_literal rfl
  refine (mentions_between hbetween _ _).trans ?_
  obtain ⟨name, value⟩ := s
  cases value with
  | float x => simp [signalPieces, signalValue, not_mentions_fixed]
  | other text => simp [signalPieces, signalValue]

theorem mentions_summary : Mentions L (topSignalsSummary L bundle) token ↔
    ∃ piece ∈ (topSignals bundle).flatMap signalPieces, Mentions L piece token := by
  have hnone : isPlain "standard feature vector profile".toList = true := on_literal rfl
  have hcomma : isBetween ", ".toList = true := on_literal rfl
  unfold topSignalsSummary
  split_ifs with hempty
  · rw [hempty]
    exact iff_of_false (not_mentions_plain hnone) fun ⟨_, h, _⟩ => absurd h List.not_mem_nil
  · refine (mentions_intercalate hcomma _).trans ?_
    simp only [List.mem_map, exists_exists_and_eq_and, mentions_signal, List.mem_flatMap]
    tauto

/-- A number at the end of a sentence. -/
theorem mentions_sentence {k k' : String} (hk : isBetween k.toList = true) (hk' : isBetween k'.toList = true) (n : Nat)
    (x : Double) (a b : String) : Mentions L (a ++ k ++ L.fixed n x ++ ("." ++ k') ++ b) token ↔
      Mentions L a token ∨ Mentions L b token := by
  have hdot : a ++ k ++ L.fixed n x ++ ("." ++ k') ++ b = a ++ k ++ L.fixed n x ++ "." ++ k' ++ b := by
    simp only [String.append_assoc]
  rw [hdot]
  refine (mentions_between hk' _ _).trans (or_congr_left ((mentions_dot _).trans ((mentions_between hk _ _).trans ?_)))
  exact or_iff_left (not_mentions_fixed n x)

theorem mentions_rationale : Mentions L (rationale L bundle) token ↔ Mentions L bundle.rfModelVersion token ∨
    ∃ piece ∈ (topSignals bundle).flatMap signalPieces, Mentions L piece token := by
  have hdot : ". Prominent feature indicators: " = "." ++ " Prominent feature indicators: " := by decide +kernel
  have hexceeding : isBetween ", exceeding the operational detection threshold of ".toList = true := on_literal rfl
  have hprominent : isBetween " Prominent feature indicators: ".toList = true := on_literal rfl
  have hproduced : isBetween ") produced an attack probability of ".toList = true := on_literal rfl
  have hstart : isOpening "The frozen Random Forest model (".toList = true := on_literal rfl
  unfold rationale
  rw [hdot]
  refine (mentions_dot _).trans ((mentions_sentence hexceeding hprominent _ _ _ _).trans
    ?_)
  refine or_congr ?_ (mentions_summary bundle)
  refine (mentions_between hproduced _ _).trans ((or_iff_left (not_mentions_fixed _ _)).trans ?_)
  exact mentions_start hstart _

theorem mentions_note : Mentions L (fusionNote bundle) token ↔ Mentions L bundle.rfModelVersion token := by
  have hresidual : isPlain NOTE_RESIDUAL.toList = true := on_literal rfl
  have hpenalty : isOpening NOTE_PENALTY.toList = true := on_literal rfl
  have hreason : isBetween NOTE_REASON.toList = true := on_literal rfl
  have hdisabled : isClosing NOTE_DISABLED.toList = true := on_literal rfl
  have hstart : isOpening NOTE_START.toList = true := on_literal rfl
  have hrest : ¬ Mentions L (NOTE_PENALTY ++ NOTE_RESIDUAL) token :=
    fun h => not_mentions_plain hresidual ((mentions_start hpenalty _).mp h)
  unfold fusionNote
  refine (mentions_between hreason _ _).trans ((or_iff_left hrest).trans ?_)
  exact (mentions_end hdisabled _).trans (mentions_start hstart _)

theorem mentions_enrichment (result : EnrichmentEvidence) : (∃ part ∈ enrichmentParts result, Mentions L part token) ↔
    ∃ piece ∈ enrichmentPieces result, Mentions L piece token := by
  have hstatus : isOpening "Enrichment status: ".toList = true := on_literal rfl
  have hentities : isOpening "Inspected entities: ".toList = true := on_literal rfl
  have hcomma : isBetween ", ".toList = true := on_literal rfl
  have hguard : isPlain "Private IP guard active; public external queries suppressed.".toList = true := on_literal rfl
  have hfirst : Mentions L ("Enrichment status: " ++ result.status ++ ".") token ↔ Mentions L result.status token :=
    (mentions_dot _).trans (mentions_start hstatus _)
  have hlist : (∃ part ∈ (if result.inspectedEntities = [] then []
        else ["Inspected entities: " ++ ", ".intercalate result.inspectedEntities ++ "."]), Mentions L part token) ↔
      ∃ entity ∈ result.inspectedEntities, Mentions L entity token := by
    split_ifs with hempty
    · simp [hempty]
    · rw [exists_mem_singleton]
      refine (mentions_dot _).trans ((mentions_start hentities _).trans ?_)
      exact mentions_intercalate hcomma _
  have hlast : ¬ ∃ part ∈ (if result.privateIpGuardTriggered then
      ["Private IP guard active; public external queries suppressed."] else []), Mentions L part token := by
    split_ifs
    · rw [exists_mem_singleton]
      exact not_mentions_plain hguard
    · exact fun ⟨_, h, _⟩ => absurd h List.not_mem_nil
  unfold enrichmentParts enrichmentPieces
  rw [exists_mem_append, exists_mem_append, or_iff_left hlast, exists_mem_singleton, hfirst, hlist,
    List.exists_mem_cons_iff]

theorem mentions_context : Mentions L (" ".intercalate (contextParts bundle)) token ↔
    Mentions L bundle.correlationStatus token ∨ (∃ incident ∈ bundle.incident, Mentions L incident token) ∨
      ∃ piece ∈ bundle.enrichmentResult.toList.flatMap enrichmentPieces, Mentions L piece token := by
  have hspace : isBetween " ".toList = true := on_literal rfl
  have hstatus : isOpening "Correlation status: ".toList = true := on_literal rfl
  have hlinked : isOpening "Linked to incident ".toList = true := on_literal rfl
  have hnone : isPlain "Entity provenance unverified; no IP addresses inspected.".toList = true := on_literal rfl
  refine (mentions_intercalate hspace _).trans ?_
  unfold contextParts
  rw [exists_mem_append, exists_mem_append, exists_mem_singleton, or_assoc]
  refine or_congr ((mentions_dot _).trans (mentions_start hstatus _)) (or_congr ?_ ?_)
  · cases bundle.incident with
    | none => simp
    | some incident =>
      rw [Option.toList_some, List.map_singleton, exists_mem_singleton]
      refine ((mentions_dot _).trans (mentions_start hlinked _)).trans ?_
      simp
  · cases bundle.enrichmentResult with
    | none =>
      rw [exists_mem_singleton]
      exact iff_of_false (not_mentions_plain hnone) (by simp)
    | some result =>
      refine (mentions_enrichment result).trans ?_
      rw [Option.toList_some, List.flatMap_singleton]

theorem mentions_playbook (hit : Hit) : Mentions L (playbookCheck hit) token ↔
    ∃ piece ∈ hitPieces hit, Mentions L piece token := by
  have hstep : isBetween "): ".toList = true := on_literal rfl
  have hdash : isBetween " - ".toList = true := on_literal rfl
  have hstart : isOpening "ChromaDB Semantic Playbook (".toList = true := on_literal rfl
  unfold playbookCheck
  refine (mentions_between hstep _ _).trans ?_
  refine (or_congr_left ((mentions_between hdash _ _).trans
    (or_congr_left (mentions_start hstart _)))).trans ?_
  simp [hitPieces, or_assoc]

theorem mentions_checks : (∃ check ∈ checks bundle, Mentions L check token) ↔
    ∃ piece ∈ bundle.chromaRagHits.head?.toList.flatMap hitPieces, Mentions L piece token := by
  have hconstant : ∀ check ∈ CHECKS, isPlain check.toList = true := by
    intro check hcheck
    rcases List.mem_cons.mp hcheck with rfl | hcheck
    · exact on_literal rfl
    · rcases List.mem_cons.mp hcheck with rfl | hcheck
      · exact on_literal rfl
      · obtain rfl := List.mem_singleton.mp hcheck
        exact on_literal rfl
  have hfixed : ¬ ∃ check ∈ CHECKS, Mentions L check token := by
    rintro ⟨check, hmem, hmentions⟩
    exact not_mentions_plain (hconstant check hmem) hmentions
  unfold checks
  rw [exists_mem_append, or_iff_left hfixed]
  cases bundle.chromaRagHits.head? with
  | none => rfl
  | some hit =>
    rw [Option.map_some, Option.toList_some, Option.toList_some, exists_mem_singleton, List.flatMap_singleton]
    exact mentions_playbook hit

theorem mentions_pieces : (∃ piece ∈ pieces bundle, Mentions L piece token) ↔
    ((((Mentions L (candidateShort bundle) token ∨ Mentions L bundle.rfModelVersion token ∨
      Mentions L bundle.correlationStatus token) ∨ ∃ incident ∈ bundle.incident, Mentions L incident token) ∨
      ∃ piece ∈ (topSignals bundle).flatMap signalPieces, Mentions L piece token) ∨
      ∃ piece ∈ bundle.enrichmentResult.toList.flatMap enrichmentPieces, Mentions L piece token) ∨
      ∃ piece ∈ bundle.chromaRagHits.head?.toList.flatMap hitPieces, Mentions L piece token := by
  unfold pieces
  refine (exists_mem_append _ _).trans (or_congr_left ((exists_mem_append _ _).trans (or_congr_left
    ((exists_mem_append _ _).trans (or_congr_left ((exists_mem_append _ _).trans (or_congr ?_ ?_)))))))
  · exact (List.exists_mem_cons_iff ..).trans (or_congr_right ((List.exists_mem_cons_iff ..).trans
      (or_congr_right (exists_mem_singleton _))))
  · simp only [Option.mem_toList, Option.mem_def]

/-- **The addresses of the template** are those of the pieces. -/
theorem mentions_template : (∃ text ∈ (deterministicTemplate L bundle).texts, Mentions L text token) ↔
    ∃ piece ∈ pieces bundle, Mentions L piece token := by
  have hfields : (∃ text ∈ [headline bundle, rationale L bundle, fusionNote bundle,
      " ".intercalate (contextParts bundle)], Mentions L text token) ↔ Mentions L (headline bundle) token ∨
        Mentions L (rationale L bundle) token ∨ Mentions L (fusionNote bundle) token ∨
        Mentions L (" ".intercalate (contextParts bundle)) token := by
    rw [List.exists_mem_cons_iff, List.exists_mem_cons_iff, List.exists_mem_cons_iff, exists_mem_singleton]
  have hregroup {a b c d e f g : Prop} : ((a ∨ b) ∨ (b ∨ c) ∨ b ∨ d ∨ e ∨ f) ∨ g ↔
      ((((a ∨ b ∨ d) ∨ e) ∨ c) ∨ f) ∨ g := by grind
  refine (exists_mem_append _ _).trans ((or_congr (hfields.trans (or_congr (mentions_headline bundle)
    (or_congr (mentions_rationale bundle) (or_congr (mentions_note bundle) (mentions_context bundle)))))
    (mentions_checks bundle)).trans ?_)
  exact hregroup.trans (mentions_pieces bundle).symm

end Template

/-! ## The checks of the template -/

theorem contains_iff {needle text : String} : contains needle text = true ↔ needle.toList <:+: text.toList :=
  decide_eq_true_iff

theorem contains_self (needle : String) : contains needle needle = true := contains_iff.mpr (List.infix_refl _)

theorem contains_append_left {needle a : String} (h : contains needle a = true) (b : String) :
    contains needle (a ++ b) = true := by
  rw [contains_iff, String.toList_append]
  exact (contains_iff.mp h).trans (List.prefix_append _ _).isInfix

theorem contains_append_right {needle b : String} (h : contains needle b = true) (a : String) :
    contains needle (a ++ b) = true := by
  rw [contains_iff, String.toList_append]
  exact (contains_iff.mp h).trans (List.suffix_append _ _).isInfix

theorem contains_lower {k needle : List Char} {text : String} (hlower : k.map Char.toLower = needle)
    (hascii : (k.all fun c => decide (c.toNat < 128)) = true) (h : contains (String.ofList k) text = true) :
    contains (String.ofList needle) (L.lower text) = true := by
  obtain ⟨a, c, htext⟩ := contains_iff.mp h
  have hchars : ∀ c ∈ k, c.toNat < 128 := by simpa using hascii
  obtain ⟨a', c', hparts⟩ := L.lower_ascii a k c hchars
  rw [String.toList_ofList] at htext
  rw [htext, String.ofList_toList] at hparts
  rw [contains_iff, String.toList_ofList, hparts, hlower]
  exact ⟨a', c', rfl⟩

section Checks

variable (bundle : AdvisoryEvidenceBundle)

theorem cited_allowed : (citedKeys bundle).all bundle.allowedEvidenceKeys.contains = true := by
  rw [List.all_eq_true]
  intro key hkey
  rw [List.contains_iff_mem]
  unfold citedKeys at hkey
  unfold AdvisoryEvidenceBundle.allowedEvidenceKeys
  simp only [List.mem_append] at hkey ⊢
  rcases hkey with (((hbase | hsignal) | hincident) | henrichment) | hhit
  · exact .inl (.inl (.inl (.inl (.inl (.inl hbase)))))
  · refine .inl (.inl (.inl (.inl (.inl (.inr ?_)))))
    exact ((List.take_sublist 5 _).map Prod.fst).subset hsignal
  · exact .inl (.inl (.inl (.inr hincident)))
  · exact .inl (.inl (.inr henrichment))
  · right
    cases hhits : bundle.chromaRagHits with
    | nil =>
      rw [hhits] at hhit
      exact absurd hhit List.not_mem_nil
    | cons hit hits =>
      rw [hhits] at hhit
      rcases List.mem_cons.mp hhit with rfl | hkeys
      · exact List.mem_cons_self
      · exact List.mem_cons_of_mem _ (List.mem_flatMap.mpr ⟨hit, List.mem_cons_self, hkeys⟩)

theorem rationale_version : contains bundle.rfModelVersion (rationale L bundle) = true := by
  unfold rationale
  iterate 7 refine contains_append_left ?_ _
  exact contains_append_right (contains_self _) _

theorem rationale_probability : contains (L.fixed 4 bundle.rfAttackProbability) (rationale L bundle) = true := by
  unfold rationale
  iterate 5 refine contains_append_left ?_ _
  exact contains_append_right (contains_self _) _

theorem contains_literal {needle text : List Char} (h : decide (needle <:+: text) = true) :
    contains (String.ofList needle) (String.ofList text) = true := by
  rwa [contains, String.toList_ofList, String.toList_ofList]

/-- The words that the note is searched for. -/
theorem note_words : contains "Random Forest" NOTE_START = true ∧ contains "fusion" NOTE_DISABLED = true ∧
    contains "disabled" NOTE_DISABLED = true :=
  ⟨contains_literal rfl, contains_literal rfl, contains_literal rfl⟩

theorem fusionNote_affirms : affirmsAuthority L (fusionNote bundle) = true := by
  obtain ⟨hforest, hfusion, hdisabled⟩ := note_words
  have hnote {k : String} (h : contains k NOTE_DISABLED = true) : contains k (fusionNote bundle) = true :=
    contains_append_left (contains_append_left (contains_append_right h _) _) _
  have hstart : contains "Random Forest" (fusionNote bundle) = true :=
    contains_append_left (contains_append_left (contains_append_left (contains_append_left hforest _) _) _) _
  unfold affirmsAuthority
  rw [Bool.and_eq_true, Bool.and_eq_true]
  exact ⟨⟨contains_lower rfl rfl hstart, contains_lower rfl rfl (hnote hfusion)⟩,
    contains_lower rfl rfl (hnote hdisabled)⟩

/-- **Every other check passes**: the template is verified when its addresses are inspected. -/
theorem template_verified : verifyExplanationGroundedness L (deterministicTemplate L bundle) bundle =
    (foundIps L (deterministicTemplate L bundle).allText).all bundle.inspectedEntities.contains := by
  have hadvisory : (deterministicTemplate L bundle).advisoryOnlyNonAuthoritative = true := rfl
  have hcited : (deterministicTemplate L bundle).citedEvidenceKeys = citedKeys bundle := rfl
  have hrationale : (deterministicTemplate L bundle).detectionRationale = rationale L bundle := rfl
  have hnote : (deterministicTemplate L bundle).complementarityAndFusionNote = fusionNote bundle := rfl
  rw [verifyExplanationGroundedness, hadvisory, hcited, hrationale, hnote, if_neg (by decide),
    if_neg (not_not_intro (cited_allowed bundle)), if_neg (not_not_intro (rationale_version bundle)),
    if_neg (fun h => h.1 (rationale_probability bundle)), fusionNote_affirms]
  split_ifs with haddresses
  · exact haddresses.symm
  · exact (Bool.eq_false_of_not_eq_true haddresses).symm

end Checks

/-! ## Grounded explanations -/

theorem mem_findall_intercalate (texts : List String) : token ∈ findall L.letter (" ".intercalate texts).toList ↔
    ∃ text ∈ texts, token ∈ findall L.letter text.toList := by
  have hspace : isGap L.letter ' ' = true := rfl
  induction texts with
  | nil =>
    have hempty : findall L.letter [] = [] := rfl
    simp [hempty]
  | cons text rest ih =>
    cases rest with
    | nil => simp
    | cons next rest =>
      rw [String.intercalate_cons_of_ne_nil (List.cons_ne_nil next rest), String.toList_append, String.toList_append,
        List.append_assoc, List.exists_mem_cons_iff]
      refine Iff.trans ?_ (or_congr_right ih)
      exact (iff_of_eq (congrArg (token ∈ ·) (findall_gap hspace _ _))).trans List.mem_append

theorem mem_findall_allText (e : EvidenceBoundExplanation) : token ∈ findall L.letter e.allText.toList ↔
    ∃ text ∈ e.texts, token ∈ findall L.letter text.toList := by
  unfold EvidenceBoundExplanation.allText EvidenceBoundExplanation.texts
  rw [mem_findall_intercalate, exists_mem_append, ← mem_findall_intercalate e.recommendedAnalystChecks]
  simp only [List.exists_mem_cons_iff, List.not_mem_nil, false_and, exists_false, or_false, or_assoc]

theorem foundIps_inspected (e : EvidenceBoundExplanation) (entities : List String) :
    (foundIps L e.allText).all entities.contains = true ↔
      ∀ text ∈ e.texts, ∀ token ∈ findall L.letter text.toList, String.ofList token ∈ entities := by
  simp only [foundIps, List.all_map, List.all_eq_true, Function.comp_apply, List.contains_iff_mem]
  constructor
  · intro h text htext token htoken
    exact h token ((mem_findall_allText e).mpr ⟨text, htext, htoken⟩)
  · intro h token htoken
    obtain ⟨text, htext, hfound⟩ := (mem_findall_allText e).mp htoken
    exact h text htext token hfound

/-- What the checker sees of the addresses. -/
theorem inspected_of_verified {e : EvidenceBoundExplanation} {bundle : AdvisoryEvidenceBundle}
    (h : verifyExplanationGroundedness L e bundle = true) :
    (foundIps L e.allText).all bundle.inspectedEntities.contains = true := by
  unfold verifyExplanationGroundedness at h
  split_ifs at h with _ _ _ _ haddresses
  exact haddresses

variable (L) in
def Inspected (bundle : AdvisoryEvidenceBundle) (text : String) : Prop :=
  ∀ token, Mentions L text token → String.ofList token ∈ bundle.inspectedEntities

variable (L) in
structure Grounded (bundle : AdvisoryEvidenceBundle) (e : EvidenceBoundExplanation) : Prop where
  verified : verifyExplanationGroundedness L e bundle = true
  inspected : ∀ text ∈ e.texts, Inspected L bundle text

variable (L) in
/-- An accepted candidate has inspected IPv6 addresses only; without one, the evidence that the template copies has
inspected addresses only. -/
def Sourced (bundle : AdvisoryEvidenceBundle) (reply : LlmReply) : Prop :=
  match reply.accepted L bundle with
  | some e => ∀ text ∈ e.texts, ∀ token ∈ ipv6Literals L.letter text.toList,
      String.ofList token ∈ bundle.inspectedEntities
  | none => ∀ piece ∈ pieces bundle, Inspected L bundle piece

theorem inspected_iff (bundle : AdvisoryEvidenceBundle) (e : EvidenceBoundExplanation) :
    (∀ text ∈ e.texts, Inspected L bundle text) ↔
      (foundIps L e.allText).all bundle.inspectedEntities.contains = true ∧
        ∀ text ∈ e.texts, ∀ token ∈ ipv6Literals L.letter text.toList,
          String.ofList token ∈ bundle.inspectedEntities := by
  rw [foundIps_inspected, ← forall₂_and]
  refine forall₂_congr fun text _ => ?_
  simp only [Inspected, Mentions, literals, List.mem_append, or_imp, forall_and]

theorem inspected_template (bundle : AdvisoryEvidenceBundle) :
    (∀ text ∈ (deterministicTemplate L bundle).texts, Inspected L bundle text) ↔
      ∀ piece ∈ pieces bundle, Inspected L bundle piece := by
  constructor
  · intro h piece hpiece token hmentions
    obtain ⟨text, htext, hin⟩ := (mentions_template bundle).mpr ⟨piece, hpiece, hmentions⟩
    exact h text htext token hin
  · intro h text htext token hmentions
    obtain ⟨piece, hpiece, hin⟩ := (mentions_template bundle).mp ⟨text, htext, hmentions⟩
    exact h piece hpiece token hin

theorem accepted_verified {bundle : AdvisoryEvidenceBundle} {reply : LlmReply} {e : EvidenceBoundExplanation}
    (h : reply.accepted L bundle = some e) : verifyExplanationGroundedness L e bundle = true := by
  cases reply with
  | explanation candidate =>
    unfold LlmReply.accepted at h
    dsimp only at h
    split_ifs at h with hverified
    obtain rfl := Option.some.inj h
    exact hverified
  | absent => cases h
  | raised => cases h
  | other => cases h

/-- **When an explanation is grounded.** -/
theorem grounded_iff (bundle : AdvisoryEvidenceBundle) (reply : LlmReply) :
    Grounded L bundle (generateExplanation L bundle reply) ↔ Sourced L bundle reply := by
  unfold Sourced generateExplanation
  cases haccepted : reply.accepted L bundle with
  | some e =>
    have hverified := accepted_verified haccepted
    have hfound := inspected_of_verified hverified
    constructor
    · intro h
      exact ((inspected_iff bundle e).mp h.inspected).2
    · intro h
      exact ⟨hverified, (inspected_iff bundle e).mpr ⟨hfound, h⟩⟩
  | none =>
    rw [Option.getD_none]
    dsimp only
    rw [← inspected_template]
    constructor
    · intro h
      exact h.inspected
    · intro h
      refine ⟨?_, h⟩
      rw [template_verified]
      exact ((inspected_iff bundle _).mp h).1

/-! ## A playbook step with an address -/

/-- ASCII only, and the floats of `PLAYBOOK_BUNDLE`. -/
def PLAIN_LANGUAGE : Language where
  letter _ := false
  lower text := String.ofList (text.toList.map Char.toLower)
  fixed n _ := if n = 2 then "0.50" else if n = 3 then "0.750" else "0.7500"
  lower_ascii a b c _ := by
    refine ⟨a.map Char.toLower, c.map Char.toLower, ?_⟩
    rw [String.toList_ofList, String.toList_ofList, List.map_append, List.map_append]
  fixed_plain n _ := by
    split_ifs <;> decide +kernel

/-- Nothing has been inspected; the first step of the playbook names an address. -/
def PLAYBOOK_BUNDLE : AdvisoryEvidenceBundle where
  candidateId := "alert_candidate_v1:unsw_flow_only"
  recordId := "rec_unsw_flow_01"
  rfModelVersion := "full-network-random-forest-6d69c72-v1"
  rfAttackProbability := Double.ofRat (3 / 4)
  rfThreshold := Double.ofRat (1 / 2)
  topFeatureSignals := []
  chromaRagHits := [.object ⟨some ⟨true, "T1110"⟩, some ⟨true, "Brute Force"⟩, none, some "Isolate 10.0.0.5 now."⟩]

/-- The template says that it is verified, with an address that nobody has inspected. -/
theorem playbook_not_grounded :
    (generateExplanation PLAIN_LANGUAGE PLAYBOOK_BUNDLE .absent).groundednessVerified = true ∧
      ¬ Grounded PLAIN_LANGUAGE PLAYBOOK_BUNDLE (generateExplanation PLAIN_LANGUAGE PLAYBOOK_BUNDLE .absent) := by
  have hstep : "Isolate 10.0.0.5 now." ∈ pieces PLAYBOOK_BUNDLE := by decide +kernel
  have hmentions : Mentions PLAIN_LANGUAGE "Isolate 10.0.0.5 now." "10.0.0.5".toList := by
    unfold Mentions
    decide +kernel
  refine ⟨rfl, fun h => ?_⟩
  exact absurd ((inspected_template PLAYBOOK_BUNDLE).mp h.inspected _ hstep _ hmentions) List.not_mem_nil

end ThreatFusion.Advisory
