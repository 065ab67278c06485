import DppEngine.PointInTime
import DppEngine.TrustedListDocuments

/-! A listed service whose status periods can no longer all be read.

A period that cannot be read is left out of the history, and the period before it then stands for
its time too. The domain crate's history answers with a latest period, which of several of one
start is its own affair. -/
namespace StatusPeriods

open CmsSeals TrustedLists TrustedListDocuments XmlTrees PointInTime

section Histories

/-- `TrustServiceHistory`, as it is used: some status of a latest period that has started. -/
structure Histories (Status : Type) where
  History : Type
  new : List (Status × Instant) → History
  statusAt : History → Instant → Option Status
  stands : ∀ periods t, Stands periods t (statusAt (new periods) t)

variable {Status : Type}

/-- The first listed of the latest periods answers. -/
def firstLatest (Status : Type) : Histories Status where
  History := List (Status × Instant)
  new := id
  statusAt periods t := (latest t periods).map Prod.fst
  stands periods t := stands_latest t periods

open Classical in
noncomputable def Histories.answering (lib : Histories Status) (periods : List (Status × Instant))
    (t : Instant) (status : Status) (h : Stands periods t (some status)) : Histories Status where
  History := List (Status × Instant)
  new others := others
  statusAt others u :=
    if others = periods ∧ u = t then some status else lib.statusAt (lib.new others) u
  stands others u := by
    by_cases hsame : others = periods ∧ u = t
    · rw [if_pos hsame, hsame.1, hsame.2]
      exact h
    · rw [if_neg hsame]
      exact lib.stands others u

def reading {History : Type} (x : Sources History Status) (lib : Histories Status) :
    Sources lib.History Status where
  parseXml := x.parseXml
  verifySignature := x.verifySignature
  verifies_signature := x.verifies_signature
  toUppercase := x.toUppercase
  base64Decode := x.base64Decode
  base64Encode := x.base64Encode
  sha256 := x.sha256
  parseTime := x.parseTime
  typeOf := x.typeOf
  statusFromUri := x.statusFromUri
  historyOf := lib.new

end Histories

section Periods

variable {History Status : Type} (x : Sources History Status)

def historyInstances (node : Node) : List Node :=
  (child node "ServiceHistory").toList.flatMap fun h => childrenNamed h "ServiceHistoryInstance"

/-- The readable periods of a `TSPService`: the current one, then the historical ones. -/
def statusPeriods (node : Node) : List (Status × Instant) :=
  ((child node "ServiceInformation").bind (parseStatusPeriod x)).toList ++
    (historyInstances node).filterMap (parseStatusPeriod x)

/-- Whether a service was granted at a moment, by the history that was parsed of it. -/
def grantedAt (lib : Histories Status) (isGranted : Status → Bool) (node : Node) (t : Instant) :
    Bool :=
  (lib.statusAt (parseService (reading x lib) node).history t).any isGranted

def isStatusPart (n : Node) : Bool := n.isNamed "ServiceStatus" || n.isNamed "StatusStartingTime"

/-- A period that was read is not any more, and nothing but its two elements was touched. -/
inductive MadeUnreadable : Node → Node → Prop
  | mk {tag attributes children children'} :
    children'.filter (fun c => !isStatusPart c) = children.filter (fun c => !isStatusPart c) →
    (parseStatusPeriod x (.element tag attributes children)).isSome →
    parseStatusPeriod x (.element tag attributes children') = none →
    MadeUnreadable (.element tag attributes children) (.element tag attributes children')

/-- A `TSPService` of which one period, the current or a historical one, was made unreadable. -/
inductive LosesPeriod : Node → Node → Prop
  | current {tag attributes before after n n'} :
    (∀ c ∈ before, c.isNamed "ServiceInformation" = false) →
    n.isNamed "ServiceInformation" = true → MadeUnreadable x n n' →
    LosesPeriod (.element tag attributes (before ++ n :: after))
      (.element tag attributes (before ++ n' :: after))
  | past {tag attributes before after tag' attributes' earlier later n n'} :
    (∀ c ∈ before, c.isNamed "ServiceHistory" = false) → tag'.name = "ServiceHistory" →
    n.isNamed "ServiceHistoryInstance" = true → MadeUnreadable x n n' →
    LosesPeriod
      (.element tag attributes
        (before ++ .element tag' attributes' (earlier ++ n :: later) :: after))
      (.element tag attributes
        (before ++ .element tag' attributes' (earlier ++ n' :: later) :: after))

variable {x} {node node' n n' : Node} {name : String} {before after : List Node}
  {tag : QName} {attributes : List XmlTrees.Attribute}

theorem parseService_history (lib : Histories Status) (node : Node) :
    (parseService (reading x lib) node).history = lib.new (statusPeriods x node) := by
  simp only [parseService, statusPeriods, historyInstances]
  rfl

theorem child_eq (node : Node) (name : String) :
    child node name = node.children.find? fun c => c.isNamed name :=
  List.head?_filter

theorem child_split (hbefore : ∀ c ∈ before, c.isNamed name = false) (hn : n.isNamed name = true) :
    child (.element tag attributes (before ++ n :: after)) name = some n := by
  rw [child_eq, Node.children, List.find?_append, List.find?_eq_none.mpr (by simpa using hbefore)]
  simp [hn]

theorem child_skip (hn : n.isNamed name = false) :
    child (.element tag attributes (before ++ n :: after)) name =
      child (.element tag attributes (before ++ after)) name := by
  simp [child_eq, Node.children, List.find?_append, hn]

theorem isNamed_of_ne {other : String} (h : n.isNamed name = true) (hne : name ≠ other) :
    n.isNamed other = false := by
  cases n with
  | element tag attributes children =>
    have hname : tag.name = name := by simpa [Node.isNamed, Node.tag] using h
    simpa [Node.isNamed, Node.tag, hname] using hne
  | text _ => rfl
  | other => rfl

theorem MadeUnreadable.isNamed (h : MadeUnreadable x n n') (name : String) :
    n'.isNamed name = n.isNamed name := by
  cases h
  rfl

theorem MadeUnreadable.parse (h : MadeUnreadable x n n') :
    (∃ p, parseStatusPeriod x n = some p) ∧ parseStatusPeriod x n' = none := by
  cases h with
  | mk _ hsome hnone => exact ⟨Option.isSome_iff_exists.mp hsome, hnone⟩

def pastPeriods (x : Sources History Status) (children : List Node) : List (Status × Instant) :=
  (children.filter fun c => c.isNamed "ServiceHistoryInstance").filterMap (parseStatusPeriod x)

theorem pastPeriods_split (earlier later : List Node)
    (hn : n.isNamed "ServiceHistoryInstance" = true) :
    pastPeriods x (earlier ++ n :: later) =
      pastPeriods x earlier ++ ((parseStatusPeriod x n).toList ++ pastPeriods x later) := by
  simp only [pastPeriods, List.filter_append, List.filter_cons, hn, if_true, List.filterMap_append,
    List.filterMap_cons]
  cases parseStatusPeriod x n <;> rfl

/-- The current status comes first, whatever the other elements hold. -/
theorem statusPeriods_current (hbefore : ∀ c ∈ before, c.isNamed "ServiceInformation" = false)
    (hn : n.isNamed "ServiceInformation" = true) :
    statusPeriods x (.element tag attributes (before ++ n :: after)) =
      (parseStatusPeriod x n).toList ++
        (historyInstances (.element tag attributes (before ++ after))).filterMap
          (parseStatusPeriod x) := by
  rw [statusPeriods, child_split hbefore hn, historyInstances,
    child_skip (isNamed_of_ne hn (by decide))]
  rfl

/-- A historical status stands at its place in the history. -/
theorem statusPeriods_past {tag' : QName} {attributes' : List XmlTrees.Attribute}
    {earlier later : List Node} (hbefore : ∀ c ∈ before, c.isNamed "ServiceHistory" = false)
    (htag : tag'.name = "ServiceHistory") (hn : n.isNamed "ServiceHistoryInstance" = true) :
    statusPeriods x (.element tag attributes
        (before ++ .element tag' attributes' (earlier ++ n :: later) :: after)) =
      (((child (.element tag attributes (before ++ after)) "ServiceInformation").bind
        (parseStatusPeriod x)).toList ++ pastPeriods x earlier) ++
        ((parseStatusPeriod x n).toList ++ pastPeriods x later) := by
  have hh : (Node.element tag' attributes' (earlier ++ n :: later)).isNamed "ServiceHistory" =
      true := by
    simp [Node.isNamed, Node.tag, htag]
  rw [statusPeriods, historyInstances, child_split hbefore hh,
    child_skip (isNamed_of_ne hh (by decide)), List.append_assoc, ← pastPeriods_split _ _ hn]
  simp only [Option.toList_some, List.flatMap_singleton, childrenNamed, pastPeriods, Node.children]

/-- A service that loses a period loses one entry of its history, and no other changes. -/
theorem LosesPeriod.periods (h : LosesPeriod x node node') :
    ∃ earlier p later, statusPeriods x node = earlier ++ p :: later ∧
      statusPeriods x node' = earlier ++ later := by
  cases h with
  | @current tag attributes before after n n' hbefore hn hlost =>
    obtain ⟨⟨p, hp⟩, hnone⟩ := hlost.parse
    have hn' := (hlost.isNamed _).trans hn
    refine ⟨[], p, (historyInstances (.element tag attributes (before ++ after))).filterMap
      (parseStatusPeriod x), ?_, ?_⟩
    · rw [statusPeriods_current hbefore hn, hp]
      rfl
    · rw [statusPeriods_current hbefore hn', hnone]
      rfl
  | @past tag attributes before after tag' attributes' earlier later n n' hbefore htag hn hlost =>
    obtain ⟨⟨p, hp⟩, hnone⟩ := hlost.parse
    have hn' := (hlost.isNamed _).trans hn
    refine ⟨((child (.element tag attributes (before ++ after)) "ServiceInformation").bind
      (parseStatusPeriod x)).toList ++ pastPeriods x earlier, p, pastPeriods x later, ?_, ?_⟩
    · rw [statusPeriods_past hbefore htag hn, hp]
      rfl
    · rw [statusPeriods_past hbefore htag hn', hnone]
      rfl

/-- A period without its two elements is not read. -/
theorem exists_madeUnreadable {p : Status × Instant} (h : parseStatusPeriod x n = some p) :
    ∃ n', MadeUnreadable x n n' := by
  cases n with
  | element tag attributes children =>
    refine ⟨.element tag attributes (children.filter fun c => !isStatusPart c),
      .mk ?_ (by simp [h]) ?_⟩
    · rw [List.filter_filter]
      simp
    · have hnone : child (.element tag attributes (children.filter fun c => !isStatusPart c))
          "ServiceStatus" = none := by
        rw [child_eq, Node.children, List.find?_filter, List.find?_eq_none]
        intro c _
        simp +contextual [isStatusPart]
      simp [parseStatusPeriod, childText, hnone]
  | text _ => cases h
  | other => cases h

theorem child_some {c : Node} (h : child node name = some c) :
    c.isNamed name = true ∧ ∃ tag attributes before after,
      node = .element tag attributes (before ++ c :: after) ∧
        ∀ b ∈ before, b.isNamed name = false := by
  rw [child_eq, List.find?_eq_some_iff_append] at h
  obtain ⟨hc, before, after, hsplit, hbefore⟩ := h
  refine ⟨hc, ?_⟩
  cases node with
  | element tag attributes children =>
    refine ⟨tag, attributes, before, after, congrArg _ hsplit, ?_⟩
    intro b hb
    simpa using hbefore b hb
  | text _ => simp [Node.children] at hsplit
  | other => simp [Node.children] at hsplit

/-- Where the entry comes from a historical element, that element may be lost. -/
theorem exists_losesPeriod_past {current earlier later : List (Status × Instant)}
    {p : Status × Instant}
    (hcurrent : ((child node "ServiceInformation").bind (parseStatusPeriod x)).toList = current)
    (h : (historyInstances node).filterMap (parseStatusPeriod x) = earlier ++ p :: later) :
    ∃ node', LosesPeriod x node node' ∧ statusPeriods x node' = current ++ (earlier ++ later) := by
  cases hhistory : child node "ServiceHistory" with
  | none => simp [historyInstances, hhistory] at h
  | some history =>
    obtain ⟨hh, tag, attributes, before, after, rfl, hbefore⟩ := child_some hhistory
    rw [historyInstances, hhistory, Option.toList_some, List.flatMap_singleton, childrenNamed,
      List.filterMap_filter, List.filterMap_eq_append_iff] at h
    obtain ⟨cs, cs', hcs, hearlier, h⟩ := h
    rw [List.filterMap_eq_cons_iff] at h
    obtain ⟨ds, n, later', hds, hnone, hn, hlater⟩ := h
    have hnamed : n.isNamed "ServiceHistoryInstance" = true := by
      by_contra hnot
      simp [hnot] at hn
    rw [if_pos hnamed] at hn
    obtain ⟨n', hlost⟩ := exists_madeUnreadable hn
    cases history with
    | element tag' attributes' children =>
      have hchildren : children = (cs ++ ds) ++ n :: later' := by
        rw [← Node.children.eq_1 tag' attributes' children, hcs, hds, List.append_assoc]
      subst hchildren
      have htag : tag'.name = "ServiceHistory" := by
        simpa [Node.isNamed, Node.tag] using hh
      refine ⟨_, .past hbefore htag hnamed hlost, ?_⟩
      rw [statusPeriods_past hbefore htag ((hlost.isNamed _).trans hnamed), hlost.parse.2]
      rw [child_skip (isNamed_of_ne hh (by decide))] at hcurrent
      have hpast : pastPeriods x (cs ++ ds) = earlier := by
        rw [pastPeriods, List.filterMap_filter, List.filterMap_append, hearlier,
          List.filterMap_eq_nil_iff.mpr hnone, List.append_nil]
      rw [hcurrent, hpast, Option.toList_none, List.nil_append, pastPeriods,
        List.filterMap_filter, hlater, List.append_assoc]
    | text _ => cases hh
    | other => cases hh

/-- Any entry of its history may be the one a service loses. -/
theorem exists_losesPeriod {earlier later : List (Status × Instant)} {p : Status × Instant}
    (h : statusPeriods x node = earlier ++ p :: later) :
    ∃ node', LosesPeriod x node node' ∧ statusPeriods x node' = earlier ++ later := by
  cases hcurrent : (child node "ServiceInformation").bind (parseStatusPeriod x) with
  | none =>
    rw [statusPeriods, hcurrent] at h
    obtain ⟨node', hlost, hperiods⟩ :=
      exists_losesPeriod_past (congrArg Option.toList hcurrent) h
    exact ⟨node', hlost, hperiods⟩
  | some q =>
    rw [statusPeriods, hcurrent, Option.toList_some, List.singleton_append] at h
    cases earlier with
    | nil =>
      obtain ⟨rfl, hlater⟩ := List.cons.inj h
      obtain ⟨info, hinfo, hq⟩ := Option.bind_eq_some_iff.mp hcurrent
      obtain ⟨hn, tag, attributes, before, after, rfl, hbefore⟩ := child_some hinfo
      obtain ⟨n', hlost⟩ := exists_madeUnreadable hq
      refine ⟨_, .current hbefore hn hlost, ?_⟩
      rw [statusPeriods_current hbefore ((hlost.isNamed _).trans hn), hlost.parse.2]
      rw [historyInstances, child_skip (isNamed_of_ne hn (by decide))] at hlater
      exact hlater
    | cons q' earlier =>
      obtain ⟨rfl, hrest⟩ := List.cons.inj h
      obtain ⟨node', hlost, hperiods⟩ :=
        exists_losesPeriod_past (congrArg Option.toList hcurrent) hrest
      exact ⟨node', hlost, hperiods⟩

end Periods

section Losses

variable {History Status : Type} (x : Sources History Status) (isGranted : Status → Bool)
  (node : Node)

/-- Whichever period is lost, and whichever latest period the history answers with, the service
is granted at no moment at which it was not. -/
def FailsClosed : Prop :=
  ∀ node', LosesPeriod x node node' → ∀ (lib : Histories Status) t,
    grantedAt x lib isGranted node' t = true → grantedAt x lib isGranted node t = true

variable {x isGranted node}

theorem grantedAt_eq (lib : Histories Status) (t : Instant) : grantedAt x lib isGranted node t =
    (lib.statusAt (lib.new (statusPeriods x node)) t).any isGranted := by
  rw [grantedAt, parseService_history]

theorem failsClosed_of_covered (h : Covered isGranted (statusPeriods x node)) :
    FailsClosed x isGranted node := by
  intro node' hlost lib t hgranted
  obtain ⟨earlier, p, later, hperiods, hperiods'⟩ := hlost.periods
  rw [grantedAt_eq, hperiods', Option.any_eq_true] at hgranted
  obtain ⟨status, hstatus, hgranted⟩ := hgranted
  have hrest : Stands (earlier ++ later) t (some status) := by
    rw [← hstatus]
    exact lib.stands _ t
  rw [hperiods] at h
  rw [grantedAt_eq, hperiods]
  exact h.of_lost hrest hgranted (lib.stands _ t)

/-- A history that answers with the lost period where it is there, and with the uncovered one
where it is not. -/
theorem covered_of_failsClosed (h : FailsClosed x isGranted node) :
    Covered isGranted (statusPeriods x node) := by
  intro earlier p later hperiods hbad status hrest
  obtain ⟨node', hlost, hperiods'⟩ := exists_losesPeriod hperiods
  have hown : Stands (statusPeriods x node) p.2 (some p.1) := by
    rw [hperiods]
    exact stands_own_start (List.mem_append_right _ List.mem_cons_self)
  let lib := ((firstLatest Status).answering _ _ _ hown).answering _ _ _ hrest
  have hlength : statusPeriods x node ≠ earlier ++ later := by
    rw [hperiods]
    intro hsame
    simpa using congrArg List.length hsame
  have hanswer : grantedAt x lib isGranted node p.2 = isGranted p.1 := by
    simp [grantedAt_eq, lib, Histories.answering, hlength]
  have hanswer' : grantedAt x lib isGranted node' p.2 = isGranted status := by
    simp [grantedAt_eq, lib, Histories.answering, hperiods']
  by_contra hgood
  have hgranted := h node' hlost lib p.2 (hanswer'.trans (by simpa using hgood))
  rw [hanswer, hbad] at hgranted
  cases hgranted

variable (x isGranted node) in
/-- Unreadable periods fail closed exactly where no granted period stands, without it, at the
start of one that is not granted. -/
theorem failsClosed_iff_covered :
    FailsClosed x isGranted node ↔ Covered isGranted (statusPeriods x node) :=
  ⟨covered_of_failsClosed, failsClosed_of_covered⟩

end Losses

section Samples

def newYear2024 : String := "2024-01-01T00:00:00Z"

def newYear2026 : String := "2026-01-01T00:00:00Z"

def datedSources : Sources Bool Bool :=
  { plainSources [] with
    parseTime := fun s =>
      if s = newYear2024 then some 1704067200
      else if s = newYear2026 then some 1767225600
      else none }

def period (name status start : String) : Node :=
  tsl name [tsl "ServiceStatus"
      [.text ("http://uri.etsi.org/TrstSvc/TrustedList/Svcstatus/" ++ status)],
    tsl "StatusStartingTime" [.text start]]

def withdrawnSince (start : String) : Node :=
  tsl "TSPService" [period "ServiceInformation" "withdrawn" start,
    tsl "ServiceHistory" [period "ServiceHistoryInstance" "granted" newYear2024]]

/-- The withdrawal's start has lost its zone, and the service reads as granted in 2027. -/
theorem lost_withdrawal_reads_as_granted :
    LosesPeriod datedSources (withdrawnSince newYear2026) (withdrawnSince "2026-01-01T00:00:00") ∧
    grantedAt datedSources (firstLatest Bool) id (withdrawnSince "2026-01-01T00:00:00")
      1798761600 = true ∧
    grantedAt datedSources (firstLatest Bool) id (withdrawnSince newYear2026) 1798761600 = false :=
  ⟨@LosesPeriod.current _ _ _ _ _ [] _ _ _ (List.forall_mem_nil _) rfl (.mk rfl rfl rfl),
    by decide, by decide⟩

end Samples

end StatusPeriods
