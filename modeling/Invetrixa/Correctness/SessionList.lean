import Invetrixa.Auth.SessionList

/-!
# The list of sessions

The comparator of the session list is a strict total order with the current session first, whatever
the dates are. But the times of expiry that it compares are counted from a clock that goes on while
the loop runs, so that two calls may order the same sessions differently, and then one is on two
pages and another on none.

## Main definitions

- `Live` — a session that the list should show
- `ShowsSession` — what the list should show of it
- `ListsSessions` — the comparator, the pages of calls one after another, and the pages beyond the end
- `SteadyOrder` — sessions that are told apart by nothing else expire in the same order for all calls

## Main results

- `compareSessions_le_iff`, `compareSessions_neg_iff` — the comparator as a lexicographic order
- `deserialize_serialize` — what is put under the key of a session is read back
- `visit_eq` — the pages of a run
- `session_pages_iff`, `ticking_clock_repeats_session`
-/

namespace Invetrixa

open Rowstore Requests AuthService

/-- The session is in the index of the user, has not expired, and its metadata are the user's. -/
def Live (userId : String) (cache : SessionCache) (id : String) : Prop :=
  id ∈ cache.index userId ∧ (cache.ttl id ≠ -2 ∧ cache.ttl id ≠ 0) ∧ userId ≠ "" ∧
    (cache.metadata id).find? "userId" = some userId

instance (userId : String) (cache : SessionCache) (id : String) : Decidable (Live userId cache id) :=
  inferInstanceAs (Decidable (_ ∧ _))

/-- The texts of the hash that the list shows. -/
def shownTexts : List (String × (SessionSummary → Option String)) :=
  [("deviceName", SessionSummary.deviceName), ("osName", SessionSummary.osName),
   ("userAgent", SessionSummary.userAgent), ("ipAddress", SessionSummary.ipAddress),
   ("location", SessionSummary.location), ("lastLoginAt", SessionSummary.lastLoginAt)]

/-- The list shows what the cache has of a session: the texts of the hash that are not empty, its
two flags, and the time that the session has to live. -/
structure ShowsSession (dates : Dates) (call : SessionListCall) (currentSessionId : Option String)
    (cache : SessionCache) (item : SessionSummary) : Prop where
  texts : ∀ f ∈ shownTexts, ∀ text, f.2 item = some text ↔
    text ≠ "" ∧ (cache.metadata item.sessionId).find? f.1 = some text
  requiresTwoFactor : item.requiresTwoFactor = true ↔
    (cache.metadata item.sessionId).find? "requiresTwoFactor" = some "1"
  twoFactorVerified : item.twoFactorVerified = true ↔
    (cache.metadata item.sessionId).find? "twoFactorVerified" = some "1"
  isCurrent : item.isCurrent = true ↔ currentSessionId = some item.sessionId
  idleSecondsRemaining : ∀ seconds, item.idleSecondsRemaining = some seconds ↔
    0 < seconds ∧ cache.ttl item.sessionId = seconds
  expiresAt : ∀ text, item.expiresAt = some text ↔ 0 < cache.ttl item.sessionId ∧
    dates.toISOString (call.now item.sessionId + cache.ttl item.sessionId * 1000) = some text

/-- The text of the time at which a session expires, as a call finds it. -/
def expiresAt (dates : Dates) (call : SessionListCall) (cache : SessionCache) (id : String) :
    Option String :=
  if 0 < cache.ttl id then dates.toISOString (call.now id + cache.ttl id * 1000) else none

/-- The time at which a session expires is a date. -/
def Dated (dates : Dates) (call : SessionListCall) (cache : SessionCache) (id : String) : Prop :=
  0 < cache.ttl id → (expiresAt dates call cache id).isSome

/-- What the list says of a session of the cache. -/
def entry (dates : Dates) (call : SessionListCall) (currentSessionId : Option String)
    (cache : SessionCache) (id : String) : SessionSummary :=
  let cached := deserializeCachedMetadata (cache.metadata id)
  { sessionId := id
    expiresAt := expiresAt dates call cache id
    idleSecondsRemaining := if 0 < cache.ttl id then some (cache.ttl id) else none
    requiresTwoFactor := cached.requiresTwoFactor
    twoFactorVerified := cached.twoFactorVerified
    isCurrent := currentSessionId = some id
    deviceName := cached.metadata.deviceName
    osName := cached.metadata.osName
    userAgent := cached.metadata.userAgent
    ipAddress := cached.metadata.ipAddress
    location := cached.metadata.location
    lastLoginAt := cached.metadata.lastLoginAt }

/-- The sessions that a call lists, before they are sorted. -/
def kept (dates : Dates) (call : SessionListCall) (userId : String)
    (currentSessionId : Option String) (cache : SessionCache) : List SessionSummary :=
  (enumerate dates call userId currentSessionId cache
    (call.sMembers (cache.index userId))).1.getD []

section Comparator

variable {dates : Dates} {collation : Collation} {a b c : SessionSummary}

namespace Collation

theorem le_total (collation : Collation) (x y : String) :
    collation.localeCompare x y ≤ 0 ∨ collation.localeCompare y x ≤ 0 := by
  have h := collation.neg_iff y x
  omega

theorem le_trans (collation : Collation) {x y z : String} (hxy : collation.localeCompare x y ≤ 0)
    (hyz : collation.localeCompare y z ≤ 0) : collation.localeCompare x z ≤ 0 := by
  rcases hxy.lt_or_eq with hxy | hxy
  · rcases hyz.lt_or_eq with hyz | hyz
    · exact (collation.trans x y z hxy hyz).le
    · rw [← collation.eq_of_eq_zero y z hyz]
      exact hxy.le
  · rw [collation.eq_of_eq_zero x y hxy]
    exact hyz

theorem le_antisymm (collation : Collation) {x y : String} (hxy : collation.localeCompare x y ≤ 0)
    (hyx : collation.localeCompare y x ≤ 0) : x = y := by
  have h := collation.neg_iff y x
  have h' := collation.neg_iff x y
  exact collation.eq_of_eq_zero x y (by omega)

end Collation

/-- The session of the request first, then the last login, the latest first, then the time of expiry,
the latest first, then the id. -/
theorem compareSessions_le_iff :
    compareSessions dates collation a b ≤ 0 ↔ a.isCurrent = true ∧ b.isCurrent = false ∨
      a.isCurrent = b.isCurrent ∧
        (toTimestamp dates b.lastLoginAt < toTimestamp dates a.lastLoginAt ∨
          toTimestamp dates b.lastLoginAt = toTimestamp dates a.lastLoginAt ∧
            (toTimestamp dates b.expiresAt < toTimestamp dates a.expiresAt ∨
              toTimestamp dates b.expiresAt = toTimestamp dates a.expiresAt ∧
                collation.localeCompare a.sessionId b.sessionId ≤ 0)) := by
  rw [compareSessions]
  cases a.isCurrent <;> cases b.isCurrent <;> simp <;> split_ifs <;> omega

theorem compareSessions_neg_iff :
    compareSessions dates collation a b < 0 ↔ ¬compareSessions dates collation b a ≤ 0 := by
  have h := collation.neg_iff a.sessionId b.sessionId
  rw [compareSessions, compareSessions]
  cases a.isCurrent <;> cases b.isCurrent <;> simp <;> split_ifs <;> omega

theorem compareSessions_total (a b : SessionSummary) :
    compareSessions dates collation a b ≤ 0 ∨ compareSessions dates collation b a ≤ 0 := by
  rcases le_or_gt (compareSessions dates collation a b) 0 with hle | hgt
  · exact .inl hle
  · exact .inr (le_of_lt (compareSessions_neg_iff.mpr hgt.not_ge))

theorem compareSessions_trans (hab : compareSessions dates collation a b ≤ 0)
    (hbc : compareSessions dates collation b c ≤ 0) : compareSessions dates collation a c ≤ 0 := by
  have hids := @Collation.le_trans collation a.sessionId b.sessionId c.sessionId
  rw [compareSessions_le_iff] at hab hbc ⊢
  rcases hab with ⟨hcurrent, hother⟩ | ⟨hsame, hab⟩
  · rcases hbc with ⟨hcurrent', _⟩ | ⟨hsame', _⟩
    · rw [hother] at hcurrent'
      cases hcurrent'
    · exact .inl ⟨hcurrent, hsame' ▸ hother⟩
  · rcases hbc with ⟨hcurrent', hother'⟩ | ⟨hsame', hbc⟩
    · exact .inl ⟨hsame ▸ hcurrent', hother'⟩
    · -- the ranks of the dates are compared with one another, then the ids
      refine .inr ⟨hsame.trans hsame', ?_⟩
      omega

theorem sessionId_eq_of_le_of_le (hab : compareSessions dates collation a b ≤ 0)
    (hba : compareSessions dates collation b a ≤ 0) : a.sessionId = b.sessionId := by
  rw [compareSessions_le_iff] at hab hba
  have hsame : a.isCurrent = b.isCurrent := by
    rcases hab with ⟨hcurrent, hother⟩ | ⟨hsame, _⟩
    · rcases hba with ⟨hcurrent', _⟩ | ⟨hsame, _⟩
      · exact hcurrent.trans hcurrent'.symm
      · exact hsame.symm
    · exact hsame
  have hcurrent : ¬(a.isCurrent = true ∧ b.isCurrent = false) := by
    rintro ⟨ha, hb⟩
    rw [ha, hb] at hsame
    cases hsame
  have hcurrent' : ¬(b.isCurrent = true ∧ a.isCurrent = false) := by
    rintro ⟨hb, ha⟩
    rw [ha, hb] at hsame
    cases hsame
  obtain ⟨_, hab⟩ := hab.resolve_left hcurrent
  obtain ⟨_, hba⟩ := hba.resolve_left hcurrent'
  exact collation.le_antisymm (by omega) (by omega)

end Comparator

section Shown

variable {dates : Dates} {call : SessionListCall} {userId : String}
  {currentSessionId : Option String} {cache : SessionCache} {id : String}

theorem normalize_eq_none_iff {value : Option String} :
    normalize value = none ↔ value = none ∨ value = some "" := by
  cases value with
  | none => simp [normalize]
  | some text => simp [normalize, Option.filter_eq_none_iff]

theorem normalize_eq_some_iff {value : Option String} {text : String} :
    normalize value = some text ↔ text ≠ "" ∧ value = some text := by
  rw [normalize, Option.filter_eq_some_iff, decide_eq_true_eq]
  exact and_comm

/-- What is put under the key of a session is read back. -/
theorem deserialize_serialize (userId : String) (requiresTwoFactor twoFactorVerified : Bool)
    (metadata : SessionMetadata) (updatedAt : String) :
    deserializeCachedMetadata (serializeMetadataForCache userId requiresTwoFactor twoFactorVerified
        metadata updatedAt) =
      { userId := some userId
        metadata :=
          { deviceName := normalize metadata.deviceName
            osName := normalize metadata.osName
            userAgent := normalize metadata.userAgent
            ipAddress := normalize metadata.ipAddress
            location := normalize metadata.location
            lastLoginAt := normalize metadata.lastLoginAt }
        requiresTwoFactor, twoFactorVerified } := by
  have htext (value : Option String) : normalize (some (value.getD "")) = normalize value := by
    cases value with
    | none => rfl
    | some text => rfl
  simp [deserializeCachedMetadata, serializeMetadataForCache, Table.find?, htext]

theorem showsSession_entry :
    ShowsSession dates call currentSessionId cache
      (entry dates call currentSessionId cache id) where
  texts f hf text := by
    simp only [shownTexts, List.mem_cons, List.not_mem_nil, or_false] at hf
    rcases hf with rfl | rfl | rfl | rfl | rfl | rfl <;> exact normalize_eq_some_iff
  requiresTwoFactor := decide_eq_true_iff
  twoFactorVerified := decide_eq_true_iff
  isCurrent := decide_eq_true_iff
  idleSecondsRemaining seconds := by
    simp only [entry]
    split_ifs with httl
    · rw [Option.some.injEq]
      exact ⟨fun h => ⟨h ▸ httl, h⟩, And.right⟩
    · refine iff_of_false nofun ?_
      rintro ⟨hpos, rfl⟩
      exact httl hpos
  expiresAt text := by
    simp only [entry, expiresAt]
    split_ifs with httl
    · exact (and_iff_right httl).symm
    · exact iff_of_false nofun fun h => httl h.1

end Shown

section Kept

variable {dates : Dates} {call : SessionListCall} {userId : String}
  {currentSessionId : Option String} {cache : SessionCache} {id : String}

/-- A session of the index is dropped for one of three reasons, and then it is not live. -/
theorem isStale_iff (hid : id ∈ cache.index userId) :
    isStale userId cache id = true ↔ ¬Live userId cache id := by
  by_cases hexpired : cache.ttl id = -2 ∨ cache.ttl id = 0
  · have hdead : ¬Live userId cache id := by
      rintro ⟨_, hlives, _⟩
      omega
    rw [isStale, if_pos hexpired]
    exact iff_of_true rfl hdead
  · have howned : (normalize ((cache.metadata id).find? "userId") = none ∨
        (cache.metadata id).find? "userId" ≠ some userId) ↔
          ¬(userId ≠ "" ∧ (cache.metadata id).find? "userId" = some userId) := by
      rw [normalize_eq_none_iff]
      constructor
      · rintro ((hnone | hempty) | hforeign) ⟨huser, howner⟩
        · rw [hnone] at howner
          cases howner
        · rw [hempty] at howner
          exact huser (Option.some.inj howner).symm
        · exact hforeign howner
      · intro hnot
        by_cases howner : (cache.metadata id).find? "userId" = some userId
        · have hempty : userId = "" := not_not.mp fun huser => hnot ⟨huser, howner⟩
          exact .inl (.inr (hempty ▸ howner))
        · exact .inr howner
    have hlive : Live userId cache id ↔
        userId ≠ "" ∧ (cache.metadata id).find? "userId" = some userId :=
      ⟨fun h => h.2.2, fun h => ⟨hid, not_or.mp hexpired, h⟩⟩
    rw [isStale, if_neg hexpired, hlive]
    by_cases hempty : (cache.metadata id).rows.length = 0
    · rw [if_pos hempty]
      refine iff_of_true rfl fun h => ?_
      exact (List.length_pos_of_mem (Table.mem_rows_of_find? h.2)).ne' hempty
    · rw [if_neg hempty, decide_eq_true_iff]
      exact howned

theorem sessionSummary_of_dated (h : Dated dates call cache id) :
    sessionSummary dates call currentSessionId id (cache.ttl id)
      (deserializeCachedMetadata (cache.metadata id)) =
        some (entry dates call currentSessionId cache id) := by
  rw [sessionSummary, entry, expiresAt]
  by_cases httl : 0 < cache.ttl id
  · have hsome := h httl
    rw [expiresAt, if_pos httl] at hsome
    obtain ⟨text, htext⟩ := Option.isSome_iff_exists.mp hsome
    simp only [if_pos httl, htext]
    rfl
  · simp only [if_neg httl]
    rfl

theorem sessionSummary_of_not_dated (h : ¬Dated dates call cache id) :
    sessionSummary dates call currentSessionId id (cache.ttl id)
      (deserializeCachedMetadata (cache.metadata id)) = none := by
  obtain ⟨httl, hnone⟩ := Classical.not_imp.mp h
  rw [expiresAt, if_pos httl, Option.not_isSome_iff_eq_none] at hnone
  simp only [sessionSummary, if_pos httl, hnone]
  rfl

/-- The loop lists the live sessions, if all of them have a date. -/
theorem enumerate_of_dated {ids : List String} (hids : ids ⊆ cache.index userId)
    (hdated : ∀ id ∈ ids, Live userId cache id → Dated dates call cache id) :
    (enumerate dates call userId currentSessionId cache ids).1 =
      some ((ids.filter fun id => Live userId cache id).map
        (entry dates call currentSessionId cache)) := by
  induction ids with
  | nil => rfl
  | cons id rest ih =>
    obtain ⟨hid, hrest⟩ := List.cons_subset.mp hids
    obtain ⟨hfirst, hothers⟩ := List.forall_mem_cons.mp hdated
    rw [enumerate]
    by_cases hlive : Live userId cache id
    · rw [if_neg (fun h => (isStale_iff hid).mp h hlive), sessionSummary_of_dated (hfirst hlive)]
      simp only [ih hrest hothers, Option.map_some]
      rw [List.filter_cons, if_pos (decide_eq_true hlive), List.map_cons]
    · have hskip : ¬decide (Live userId cache id) = true := by rwa [decide_eq_true_iff]
      rw [if_pos ((isStale_iff hid).mpr hlive), List.filter_cons, if_neg hskip]
      exact ih hrest hothers

/-- A live session without a date makes the loop throw. -/
theorem enumerate_of_not_dated {ids : List String} (hids : ids ⊆ cache.index userId)
    (hid : id ∈ ids) (hlive : Live userId cache id) (hdate : ¬Dated dates call cache id) :
    (enumerate dates call userId currentSessionId cache ids).1 = none := by
  induction ids with
  | nil => cases hid
  | cons id' rest ih =>
    obtain ⟨hid', hrest⟩ := List.cons_subset.mp hids
    rw [enumerate]
    by_cases hlive' : Live userId cache id'
    · rw [if_neg (fun h => (isStale_iff hid').mp h hlive')]
      by_cases hdate' : Dated dates call cache id'
      · rw [sessionSummary_of_dated hdate']
        have hne : id ≠ id' := fun heq => hdate (heq ▸ hdate')
        simp only [ih hrest ((List.mem_cons.mp hid).resolve_left hne), Option.map_none]
      · rw [sessionSummary_of_not_dated hdate']
    · have hne : id ≠ id' := fun heq => hlive' (heq ▸ hlive)
      rw [if_pos ((isStale_iff hid').mpr hlive')]
      exact ih hrest ((List.mem_cons.mp hid).resolve_left hne)

/-- What is cleaned up is not live. -/
theorem not_live_of_mem_enumerate {ids : List String} (hids : ids ⊆ cache.index userId) :
    ∀ id ∈ (enumerate dates call userId currentSessionId cache ids).2, ¬Live userId cache id := by
  induction ids with
  | nil => nofun
  | cons id rest ih =>
    obtain ⟨hid, hrest⟩ := List.cons_subset.mp hids
    rw [enumerate]
    split
    · next hstale =>
      exact List.forall_mem_cons.mpr ⟨(isStale_iff hid).mp hstale, ih hrest⟩
    · split
      · nofun
      · exact ih hrest

/-- The live sessions in the order of the index. -/
def liveIds (call : SessionListCall) (userId : String) (cache : SessionCache) : List String :=
  (call.sMembers (cache.index userId)).filter fun id => Live userId cache id

theorem mem_liveIds_iff : id ∈ liveIds call userId cache ↔ Live userId cache id := by
  rw [liveIds, List.mem_filter, (call.perm _).mem_iff, decide_eq_true_eq]
  exact and_iff_right_of_imp And.left

theorem nodup_liveIds : (liveIds call userId cache).Nodup :=
  ((call.perm _).nodup_iff.mpr (cache.nodup userId)).filter _

/-- All live sessions have a date. -/
def AllDated (dates : Dates) (call : SessionListCall) (userId : String) (cache : SessionCache) :
    Prop :=
  ∀ id, Live userId cache id → Dated dates call cache id

theorem enumerate_eq_some (h : AllDated dates call userId cache) :
    (enumerate dates call userId currentSessionId cache (call.sMembers (cache.index userId))).1 =
      some ((liveIds call userId cache).map (entry dates call currentSessionId cache)) :=
  enumerate_of_dated (call.perm _).subset fun id _ => h id

theorem enumerate_eq_none (h : ¬AllDated dates call userId cache) :
    (enumerate dates call userId currentSessionId cache
      (call.sMembers (cache.index userId))).1 = none := by
  obtain ⟨id, hnot⟩ := not_forall.mp h
  obtain ⟨hlive, hdate⟩ := Classical.not_imp.mp hnot
  exact enumerate_of_not_dated (call.perm _).subset ((call.perm _).mem_iff.mpr hlive.1) hlive hdate

/-- What is kept are entries of live sessions. -/
theorem exists_of_mem_kept {item : SessionSummary}
    (h : item ∈ kept dates call userId currentSessionId cache) :
    ∃ id, item = entry dates call currentSessionId cache id := by
  rw [kept] at h
  by_cases hdated : AllDated dates call userId cache
  · rw [enumerate_eq_some hdated] at h
    obtain ⟨id, _, rfl⟩ := List.mem_map.mp h
    exact ⟨id, rfl⟩
  · rw [enumerate_eq_none hdated] at h
    cases h

end Kept

section Ranking

variable (dates : Dates) (collation : Collation) (call : SessionListCall) (userId : String)
  (currentSessionId : Option String) (cache : SessionCache)

/-- The first session comes before the second in the list, or is the second. -/
def Precedes (id id' : String) : Prop :=
  compareSessions dates collation (entry dates call currentSessionId cache id)
    (entry dates call currentSessionId cache id') ≤ 0

instance (id id' : String) :
    Decidable (Precedes dates collation call currentSessionId cache id id') :=
  inferInstanceAs (Decidable (_ ≤ _))

/-- The ids in the order of the list. -/
def ranking : List String :=
  (liveIds call userId cache).insertionSort (Precedes dates collation call currentSessionId cache)

variable {dates collation call userId currentSessionId cache}
variable {call' : SessionListCall} {cache' : SessionCache} {id id' : String}

theorem sortSummaries_liveIds :
    sortSummaries dates collation
        ((liveIds call userId cache).map (entry dates call currentSessionId cache)) =
      (ranking dates collation call userId currentSessionId cache).map
        (entry dates call currentSessionId cache) := by
  rw [ranking, sortSummaries]
  exact (List.map_insertionSort (r := Precedes dates collation call currentSessionId cache)
    (s := fun a b => compareSessions dates collation a b ≤ 0) _ _ fun _ _ _ _ => Iff.rfl).symm

theorem mem_ranking_iff :
    id ∈ ranking dates collation call userId currentSessionId cache ↔ Live userId cache id :=
  (List.mem_insertionSort _).trans mem_liveIds_iff

theorem nodup_ranking : (ranking dates collation call userId currentSessionId cache).Nodup :=
  (List.perm_insertionSort _ _).nodup_iff.mpr nodup_liveIds

theorem pairwise_ranking :
    (ranking dates collation call userId currentSessionId cache).Pairwise
      (Precedes dates collation call currentSessionId cache) := by
  have : Std.Total (Precedes dates collation call currentSessionId cache) :=
    ⟨fun _ _ => compareSessions_total _ _⟩
  have : IsTrans String (Precedes dates collation call currentSessionId cache) :=
    ⟨fun _ _ _ => compareSessions_trans⟩
  exact List.pairwise_insertionSort _ _

theorem ranking_perm (hlive : ∀ id, Live userId cache' id ↔ Live userId cache id) :
    (ranking dates collation call' userId currentSessionId cache').Perm
      (ranking dates collation call userId currentSessionId cache) := by
  refine (List.perm_ext_iff_of_nodup nodup_ranking nodup_ranking).mpr fun id => ?_
  rw [mem_ranking_iff, mem_ranking_iff, hlive]

/-- Calls that order the live sessions in the same way rank them in the same way. -/
theorem ranking_congr (hlive : ∀ id, Live userId cache' id ↔ Live userId cache id)
    (hprecedes : ∀ id id', Live userId cache id → Live userId cache id' →
      Precedes dates collation call' currentSessionId cache' id id' →
        Precedes dates collation call currentSessionId cache id id') :
    ranking dates collation call' userId currentSessionId cache' =
      ranking dates collation call userId currentSessionId cache := by
  have hperm : (ranking dates collation call' userId currentSessionId cache').Perm
      (ranking dates collation call userId currentSessionId cache) := ranking_perm hlive
  have hsorted : (ranking dates collation call' userId currentSessionId cache').Pairwise
      (Precedes dates collation call currentSessionId cache) := by
    refine pairwise_ranking.imp_of_mem fun {id id'} hid hid' => hprecedes id id' ?_ ?_
    · exact mem_ranking_iff.mp (hperm.mem_iff.mp hid)
    · exact mem_ranking_iff.mp (hperm.mem_iff.mp hid')
  exact hperm.eq_of_pairwise (fun _ _ _ _ => sessionId_eq_of_le_of_le) hsorted pairwise_ranking

end Ranking

section Calls

variable {dates : Dates} {collation : Collation} {call : SessionListCall} {userId : String}
  {currentSessionId : Option String} {pageSize : Option ℚ} {cache cache' : SessionCache}

/-- The same sessions are live, with the same metadata and as much time to live. -/
structure SameLive (userId : String) (cache cache' : SessionCache) : Prop where
  live : ∀ id, Live userId cache' id ↔ Live userId cache id
  metadata : ∀ id, Live userId cache id → cache'.metadata id = cache.metadata id
  ttl : ∀ id, Live userId cache id → cache'.ttl id = cache.ttl id

theorem SameLive.refl : SameLive userId cache cache :=
  ⟨fun _ => Iff.rfl, fun _ _ => rfl, fun _ _ => rfl⟩

theorem SameLive.trans {cache'' : SessionCache} (h : SameLive userId cache cache')
    (h' : SameLive userId cache' cache'') : SameLive userId cache cache'' where
  live id := (h'.live id).trans (h.live id)
  metadata id hid := (h'.metadata id ((h.live id).mpr hid)).trans (h.metadata id hid)
  ttl id hid := (h'.ttl id ((h.live id).mpr hid)).trans (h.ttl id hid)

theorem SameLive.expiresAt (h : SameLive userId cache cache') {id : String}
    (hid : Live userId cache id) :
    expiresAt dates call cache' id = Invetrixa.expiresAt dates call cache id := by
  rw [Invetrixa.expiresAt, Invetrixa.expiresAt, h.ttl id hid]

theorem SameLive.entry (h : SameLive userId cache cache') {id : String}
    (hid : Live userId cache id) :
    entry dates call currentSessionId cache' id =
      Invetrixa.entry dates call currentSessionId cache id := by
  simp only [Invetrixa.entry, h.metadata id hid, h.ttl id hid, h.expiresAt hid]

theorem SameLive.allDated_iff (h : SameLive userId cache cache') :
    AllDated dates call userId cache' ↔ AllDated dates call userId cache := by
  refine forall_congr' fun id => ?_
  rw [h.live id]
  refine forall_congr' fun hid => ?_
  rw [Dated, Dated, h.ttl id hid, h.expiresAt hid]

theorem SameLive.ranking (h : SameLive userId cache cache') :
    ranking dates collation call userId currentSessionId cache' =
      Invetrixa.ranking dates collation call userId currentSessionId cache := by
  refine ranking_congr h.live fun id id' hid hid' hprecedes => ?_
  rwa [Precedes, h.entry hid, h.entry hid'] at hprecedes

/-- Cleaning up after a session that is not live takes nothing from those that are. -/
theorem sameLive_cleanup {id : String} (hdead : ¬Live userId cache id) :
    SameLive userId cache (cleanupSessionArtifacts userId id cache) := by
  have hmetadata : ∀ id', id' ≠ id →
      (cleanupSessionArtifacts userId id cache).metadata id' = cache.metadata id' :=
    fun id' hne => Function.update_of_ne hne _ _
  have hindex : ∀ id', id' ≠ id →
      (id' ∈ (cleanupSessionArtifacts userId id cache).index userId ↔
        id' ∈ cache.index userId) := by
    intro id' hne
    simp only [cleanupSessionArtifacts]
    split
    · exact List.mem_erase_of_ne hne
    · exact Iff.rfl
  have hgone : ¬Live userId (cleanupSessionArtifacts userId id cache) id := by
    rintro ⟨_, _, _, howner⟩
    simp only [cleanupSessionArtifacts, Function.update_self] at howner
    cases howner
  refine ⟨fun id' => ?_, fun id' hlive => hmetadata id' fun heq => hdead (heq ▸ hlive),
    fun _ _ => rfl⟩
  rcases eq_or_ne id' id with rfl | hne
  · exact iff_of_false hgone hdead
  · rw [Live, Live, hindex id' hne, hmetadata id' hne]
    rfl

theorem sameLive_foldl_cleanup {ids : List String} (hdead : ∀ id ∈ ids, ¬Live userId cache id) :
    SameLive userId cache
      (ids.foldl (fun cache id => cleanupSessionArtifacts userId id cache) cache) := by
  induction ids generalizing cache with
  | nil => exact SameLive.refl
  | cons id ids ih =>
    have hstep := sameLive_cleanup (hdead id List.mem_cons_self)
    refine hstep.trans (ih fun id' hid' hlive => ?_)
    exact hdead id' (List.mem_cons_of_mem _ hid') ((hstep.live id').mp hlive)

/-- A call leaves the live sessions as they are. -/
theorem sameLive_listActiveSessions (page : Option ℚ) :
    SameLive userId cache (listActiveSessions dates collation call userId currentSessionId page
      pageSize cache).2 := by
  have hdead : ∀ id ∈ (enumerate dates call userId currentSessionId cache
      (call.sMembers (cache.index userId))).2, ¬Live userId cache id :=
    not_live_of_mem_enumerate (call.perm _).subset
  have hcleaned := sameLive_foldl_cleanup hdead
  rw [listActiveSessions]
  dsimp only
  split <;> exact hcleaned

/-- The page size that a request gets. -/
def pageSizeOf (pageSize : Option ℚ) : ℕ :=
  min SESSION_LIST_MAX_PAGE_SIZE (requested pageSize SESSION_LIST_DEFAULT_PAGE_SIZE)

theorem requested_pos (value : Option ℚ) {default : ℕ} (hdefault : 0 < default) :
    0 < requested value default := by
  rw [requested]
  split_ifs <;> omega

theorem pageSizeOf_pos (pageSize : Option ℚ) : 0 < pageSizeOf pageSize :=
  lt_min (by decide) (requested_pos pageSize (by decide))

/-- How many pages the list has. -/
def pageTotal (dates : Dates) (collation : Collation) (call : SessionListCall) (userId : String)
    (currentSessionId : Option String) (pageSize : Option ℚ) (cache : SessionCache) : ℕ :=
  Paging.pageCount (pageSizeOf pageSize)
    (ranking dates collation call userId currentSessionId cache).length

/-- What a page shows: its part of the ranking, or the last part if it is beyond the end. -/
def shownPage (dates : Dates) (collation : Collation) (call : SessionListCall) (userId : String)
    (currentSessionId : Option String) (page pageSize : Option ℚ) (cache : SessionCache) :
    SessionListResult :=
  let total := pageTotal dates collation call userId currentSessionId pageSize cache
  let shown := if total = 0 then 1 else min (requested page 1) total
  { items := (Paging.page (pageSizeOf pageSize)
      (ranking dates collation call userId currentSessionId cache) (shown - 1)).map
        (entry dates call currentSessionId cache)
    totalItems := (ranking dates collation call userId currentSessionId cache).length
    page := shown
    pageSize := pageSizeOf pageSize
    totalPages := total
    hasNextPage := 0 < total && shown < total
    hasPreviousPage := 0 < total && 1 < shown }

theorem listActiveSessions_of_dated (h : AllDated dates call userId cache) (page : Option ℚ) :
    (listActiveSessions dates collation call userId currentSessionId page pageSize cache).1 =
      .ok (shownPage dates collation call userId currentSessionId page pageSize cache) := by
  have hsorted : sortSummaries dates collation
        ((liveIds call userId cache).map (entry dates call currentSessionId cache)) =
      (ranking dates collation call userId currentSessionId cache).map
        (entry dates call currentSessionId cache) := sortSummaries_liveIds
  have htotal : (if (ranking dates collation call userId currentSessionId cache).length = 0 then 0
      else Paging.pageCount
        (min SESSION_LIST_MAX_PAGE_SIZE (requested pageSize SESSION_LIST_DEFAULT_PAGE_SIZE))
        (ranking dates collation call userId currentSessionId cache).length) =
      pageTotal dates collation call userId currentSessionId pageSize cache := by
    split_ifs with hzero
    · rw [pageTotal, hzero, Paging.pageCount_zero]
    · rw [pageTotal, pageSizeOf]
  rw [listActiveSessions, shownPage]
  simp only [enumerate_eq_some h, hsorted, List.length_map, htotal, pageSizeOf]
  congr 2
  by_cases hzero : (ranking dates collation call userId currentSessionId cache).length = 0
  · rw [if_pos hzero, List.length_eq_zero_iff.mp hzero, Paging.page, List.drop_nil, List.take_nil,
      List.map_nil]
  · rw [if_neg hzero, Paging.map_page, Paging.page]

theorem listActiveSessions_of_not_dated (h : ¬AllDated dates call userId cache)
    (page : Option ℚ) :
    (listActiveSessions dates collation call userId currentSessionId page pageSize cache).1 =
      .error (.unauthorized "Unable to load session list.") := by
  simp only [listActiveSessions, enumerate_eq_none h]

/-- What a call shows depends on the live sessions alone. -/
theorem listActiveSessions_congr (h : SameLive userId cache cache') (page : Option ℚ) :
    (listActiveSessions dates collation call userId currentSessionId page pageSize cache').1 =
      (listActiveSessions dates collation call userId currentSessionId page pageSize cache).1 := by
  by_cases hdated : AllDated dates call userId cache
  · have hentries : ∀ i, (Paging.page (pageSizeOf pageSize)
          (ranking dates collation call userId currentSessionId cache) i).map
            (entry dates call currentSessionId cache') =
        (Paging.page (pageSizeOf pageSize)
          (ranking dates collation call userId currentSessionId cache) i).map
            (entry dates call currentSessionId cache) := by
      refine fun i => List.map_congr_left fun id hid => h.entry ?_
      exact mem_ranking_iff.mp (List.mem_of_mem_drop (List.mem_of_mem_take hid))
    have htotal : pageTotal dates collation call userId currentSessionId pageSize cache' =
        pageTotal dates collation call userId currentSessionId pageSize cache := by
      rw [pageTotal, h.ranking, pageTotal]
    rw [listActiveSessions_of_dated hdated, listActiveSessions_of_dated (h.allDated_iff.mpr hdated),
      shownPage, shownPage]
    simp only [htotal, h.ranking, hentries]
  · rw [listActiveSessions_of_not_dated hdated,
      listActiveSessions_of_not_dated (mt h.allDated_iff.mp hdated)]

end Calls

section Runs

variable {dates : Dates} {collation : Collation} {call : ℕ → SessionListCall} {userId : String}
  {currentSessionId : Option String} {pageSize : Option ℚ} {cache cache' : SessionCache}

/-- The pages of a run are those of calls on the first state. -/
theorem visit_eq (pages : List ℕ) (h : SameLive userId cache cache') :
    visit dates collation call userId currentSessionId pageSize pages cache' =
      pages.map fun page => (listActiveSessions dates collation (call page) userId currentSessionId
        (some page) pageSize cache).1 := by
  induction pages generalizing cache' with
  | nil => rfl
  | cons page pages ih =>
    have hafter : SameLive userId cache' (listActiveSessions dates collation (call page) userId
        currentSessionId (some page) pageSize cache').2 := sameLive_listActiveSessions _
    exact congrArg₂ List.cons (listActiveSessions_congr h _) (ih (h.trans hafter))

theorem requested_natCast {n : ℕ} (hn : 0 < n) : requested (some n) 1 = n := by
  simp only [requested, Option.getD_some, Int.floor_natCast, Int.toNat_natCast]
  exact if_pos (by exact_mod_cast hn)

theorem le_requested {n : ℕ} {page : ℚ} (h : n ≤ page) : n ≤ requested (some page) 1 := by
  have hfloor : (n : ℤ) ≤ ⌊page⌋ := Int.le_floor.mpr (by exact_mod_cast h)
  simp only [requested, Option.getD_some]
  split_ifs <;> omega

variable {k : SessionListCall}

/-- The comparator is a strict total order on what a call lists. -/
theorem strictTotal_kept :
    IsStrictTotalOrder {s // s ∈ kept dates k userId currentSessionId cache}
      fun a b => compareSessions dates collation a.1 b.1 < 0 := by
  have heq : ∀ a b : {s // s ∈ kept dates k userId currentSessionId cache},
      a.1.sessionId = b.1.sessionId → a = b := by
    rintro ⟨a, ha⟩ ⟨b, hb⟩ hid
    obtain ⟨id, rfl⟩ := exists_of_mem_kept ha
    obtain ⟨id', rfl⟩ := exists_of_mem_kept hb
    obtain rfl : id = id' := hid
    rfl
  refine { trichotomous := fun a b hab hba => ?_
           irrefl := fun a h => ?_
           trans := fun a b c hab hbc => ?_ }
  · rw [compareSessions_neg_iff, not_not] at hab hba
    exact heq a b (sessionId_eq_of_le_of_le hba hab)
  · exact compareSessions_neg_iff.mp h h.le
  · rw [compareSessions_neg_iff] at hab hbc ⊢
    intro hca
    have htotal : compareSessions dates collation a.1 b.1 ≤ 0 ∨
        compareSessions dates collation b.1 a.1 ≤ 0 := compareSessions_total _ _
    rcases htotal with hle | hle
    · exact hbc (compareSessions_trans hca hle)
    · exact hab hle

/-- The comparator is a strict total order on the sessions, and the current one comes first. -/
structure OrdersSessions (dates : Dates) (collation : Collation)
    (sessions : List SessionSummary) : Prop where
  total : IsStrictTotalOrder {s // s ∈ sessions}
    fun a b => compareSessions dates collation a.1 b.1 < 0
  currentFirst : ∀ a ∈ sessions, ∀ b ∈ sessions, a.isCurrent = true → b.isCurrent = false →
    compareSessions dates collation a b < 0

theorem ordersSessions_kept :
    OrdersSessions dates collation (kept dates k userId currentSessionId cache) where
  total := strictTotal_kept
  currentFirst a _ b _ ha hb := by
    rw [compareSessions_neg_iff, compareSessions_le_iff, ha, hb]
    rintro (⟨hfalse, _⟩ | ⟨hfalse, _⟩) <;> cases hfalse

/-- The ids that pages show. -/
def shownIds (results : List SessionListResult) : List String :=
  (results.flatMap SessionListResult.items).map SessionSummary.sessionId

/-- The pages show each live session of the user once and no other, each as the cache has it. -/
structure ShowsLiveOnce (dates : Dates) (call : ℕ → SessionListCall) (userId : String)
    (currentSessionId : Option String) (cache : SessionCache)
    (results : List SessionListResult) : Prop where
  once : (shownIds results).Nodup
  live : ∀ id, id ∈ shownIds results ↔ Live userId cache id
  metadata : ∀ i result, results[i]? = some result → ∀ item ∈ result.items,
    ShowsSession dates (call (i + 1)) currentSessionId cache item

/-- The first page is answered, and so are all up to the last that it names; they show each live
session once. -/
def PagesCover (dates : Dates) (collation : Collation) (call : ℕ → SessionListCall)
    (userId : String) (currentSessionId : Option String) (pageSize : Option ℚ)
    (cache : SessionCache) : Prop :=
  ∃ first, (listActiveSessions dates collation (call 1) userId currentSessionId (some 1) pageSize
      cache).1 = .ok first ∧
    ∃ results, visit dates collation call userId currentSessionId pageSize
        ((List.range first.totalPages).map (· + 1)) cache = results.map .ok ∧
      ShowsLiveOnce dates call userId currentSessionId cache results

/-- The part of the ranking that a page within bounds shows. -/
theorem items_shownPage {i : ℕ}
    (hi : i < pageTotal dates collation k userId currentSessionId pageSize cache) :
    (shownPage dates collation k userId currentSessionId (some ((i + 1 : ℕ) : ℚ)) pageSize
        cache).items =
      (Paging.page (pageSizeOf pageSize)
        (ranking dates collation k userId currentSessionId cache) i).map
          (entry dates k currentSessionId cache) := by
  rw [shownPage, requested_natCast (Nat.succ_pos i)]
  simp only [if_neg (Nat.ne_zero_of_lt hi), min_eq_left (Nat.succ_le_of_lt hi)]
  rfl

/-- All calls find as many pages. -/
theorem pageTotal_congr (k k' : SessionListCall) :
    pageTotal dates collation k userId currentSessionId pageSize cache =
      pageTotal dates collation k' userId currentSessionId pageSize cache := by
  have hperm : (ranking dates collation k userId currentSessionId cache).Perm
      (ranking dates collation k' userId currentSessionId cache) := ranking_perm fun _ => Iff.rfl
  rw [pageTotal, hperm.length_eq, pageTotal]

/-- The ids on the pages, each of which shows its part of the ranking of its own call. -/
def rankedIds (dates : Dates) (collation : Collation) (call : ℕ → SessionListCall) (userId : String)
    (currentSessionId : Option String) (pageSize : Option ℚ) (cache : SessionCache) : List String :=
  (List.range (pageTotal dates collation (call 1) userId currentSessionId pageSize cache)).flatMap
    fun i => Paging.page (pageSizeOf pageSize)
      (ranking dates collation (call (i + 1)) userId currentSessionId cache) i

/-- Where the live sessions have dates, the pages cover them exactly if the parts of the rankings
that the calls show do. -/
theorem pagesCover_iff (hdated : ∀ page, AllDated dates (call page) userId cache) :
    PagesCover dates collation call userId currentSessionId pageSize cache ↔
      (rankedIds dates collation call userId currentSessionId pageSize cache).Nodup ∧
        ∀ id, id ∈ rankedIds dates collation call userId currentSessionId pageSize cache ↔
          Live userId cache id := by
  have hfirst : (listActiveSessions dates collation (call 1) userId currentSessionId (some 1)
      pageSize cache).1 = .ok (shownPage dates collation (call 1) userId currentSessionId (some 1)
        pageSize cache) := listActiveSessions_of_dated (hdated 1) (some 1)
  have hvisit : visit dates collation call userId currentSessionId pageSize
      ((List.range (pageTotal dates collation (call 1) userId currentSessionId pageSize cache)).map
        (· + 1)) cache =
      ((List.range (pageTotal dates collation (call 1) userId currentSessionId pageSize cache)).map
        fun i => shownPage dates collation (call (i + 1)) userId currentSessionId
          (some ((i + 1 : ℕ) : ℚ)) pageSize cache).map .ok := by
    rw [visit_eq _ SameLive.refl, List.map_map, List.map_map]
    exact List.map_congr_left fun i _ => listActiveSessions_of_dated (hdated (i + 1)) _
  have hitems : ∀ i ∈ List.range (pageTotal dates collation (call 1) userId currentSessionId
      pageSize cache),
      (shownPage dates collation (call (i + 1)) userId currentSessionId (some ((i + 1 : ℕ) : ℚ))
        pageSize cache).items =
          (Paging.page (pageSizeOf pageSize)
            (ranking dates collation (call (i + 1)) userId currentSessionId cache) i).map
              (entry dates (call (i + 1)) currentSessionId cache) := by
    intro i hi
    refine items_shownPage ?_
    rw [pageTotal_congr (call (i + 1)) (call 1)]
    exact List.mem_range.mp hi
  have hids : shownIds ((List.range (pageTotal dates collation (call 1) userId currentSessionId
      pageSize cache)).map fun i => shownPage dates collation (call (i + 1)) userId currentSessionId
        (some ((i + 1 : ℕ) : ℚ)) pageSize cache) =
      rankedIds dates collation call userId currentSessionId pageSize cache := by
    rw [shownIds, rankedIds, List.flatMap_map, List.map_flatMap]
    refine List.flatMap_congr fun i hi => ?_
    rw [hitems i hi, List.map_map]
    exact List.map_id _
  constructor
  · rintro ⟨first, hok, results, hresults, hshows⟩
    obtain rfl := Except.ok.inj (hok.symm.trans hfirst)
    have heq := List.map_injective_iff.mpr (fun _ _ => Except.ok.inj) (hresults.symm.trans hvisit)
    rw [← hids, ← heq]
    exact ⟨hshows.once, hshows.live⟩
  · rintro ⟨hnodup, hlive⟩
    refine ⟨_, hfirst, _, hvisit, hids ▸ hnodup, fun id => hids ▸ hlive id, ?_⟩
    intro i result hresult item hitem
    rw [List.getElem?_map, Option.map_eq_some_iff] at hresult
    obtain ⟨j, hj, rfl⟩ := hresult
    obtain ⟨hlt, rfl⟩ := List.getElem?_eq_some_iff.mp hj
    rw [List.getElem_range] at hitem
    rw [hitems i (List.mem_range.mpr (by simpa using hlt))] at hitem
    obtain ⟨id, _, rfl⟩ := List.mem_map.mp hitem
    exact showsSession_entry

end Runs

section Steady

/-- Neither the session of the request nor the last login tells the sessions apart. -/
def SameRank (dates : Dates) (currentSessionId : Option String) (cache : SessionCache)
    (id id' : String) : Prop :=
  (currentSessionId = some id ↔ currentSessionId = some id') ∧
    toTimestamp dates (normalize ((cache.metadata id).find? "lastLoginAt")) =
      toTimestamp dates (normalize ((cache.metadata id').find? "lastLoginAt"))

/-- A call finds that the first session expires after the second; or at the same time, and its id
comes first. -/
def Outlasts (dates : Dates) (collation : Collation) (call : SessionListCall)
    (cache : SessionCache) (id id' : String) : Prop :=
  toTimestamp dates (expiresAt dates call cache id') <
      toTimestamp dates (expiresAt dates call cache id) ∨
    toTimestamp dates (expiresAt dates call cache id') =
        toTimestamp dates (expiresAt dates call cache id) ∧
      collation.localeCompare id id' < 0

variable {ι : Type} (dates : Dates) (collation : Collation) (calls : ι → SessionListCall)
  (userId : String) (currentSessionId : Option String) (cache : SessionCache)

/-- All calls find dates, and sessions that nothing else tells apart outlast one another for all of
them or for none. -/
structure SteadyOrder : Prop where
  dated : ∀ i, AllDated dates (calls i) userId cache
  steady : ∀ i j id id', Live userId cache id → Live userId cache id' →
    SameRank dates currentSessionId cache id id' → Outlasts dates collation (calls i) cache id id' →
      Outlasts dates collation (calls j) cache id id'

/-- The comparator orders what is kept, with the session of the request first; whichever of the
calls show the pages, these cover the live sessions; and a page beyond the end is the last one. -/
structure ListsSessions : Prop where
  orders : ∀ i, OrdersSessions dates collation (kept dates (calls i) userId currentSessionId cache)
  pages : ∀ (pageSize : Option ℚ) (choice : ℕ → ι),
    PagesCover dates collation (fun page => calls (choice page)) userId currentSessionId pageSize
      cache
  beyond : ∀ i pageSize (page : ℚ) result,
    (listActiveSessions dates collation (calls i) userId currentSessionId (some page) pageSize
      cache).1 = .ok result → result.totalPages < page →
    (listActiveSessions dates collation (calls i) userId currentSessionId
      (some (result.totalPages : ℚ)) pageSize cache).1 = .ok result

variable {dates collation calls userId currentSessionId cache} {i j : ι} {id id' : String}

theorem isCurrent_entry_eq_iff {call call' : SessionListCall} :
    (entry dates call currentSessionId cache id).isCurrent =
        (entry dates call' currentSessionId cache id').isCurrent ↔
      (currentSessionId = some id ↔ currentSessionId = some id') := by
  simp only [entry, decide_eq_decide]

theorem Collation.ne_zero_of_ne (collation : Collation) (h : id ≠ id') :
    collation.localeCompare id id' ≠ 0 := mt (collation.eq_of_eq_zero id id') h

/-- Where the order is steady, all calls order two sessions in the same way. -/
theorem SteadyOrder.precedes (h : SteadyOrder dates collation calls userId currentSessionId cache)
    (hid : Live userId cache id) (hid' : Live userId cache id')
    (hprecedes : Precedes dates collation (calls i) currentSessionId cache id id') :
    Precedes dates collation (calls j) currentSessionId cache id id' := by
  rcases eq_or_ne id id' with rfl | hne
  · exact or_self_iff.mp (compareSessions_total _ _)
  rw [Precedes, compareSessions_le_iff] at hprecedes ⊢
  rcases hprecedes with hcurrent | ⟨hsame, hlogin | ⟨hlogin, hexpires⟩⟩
  · exact .inl hcurrent
  · exact .inr ⟨hsame, .inl hlogin⟩
  · have hrank : SameRank dates currentSessionId cache id id' :=
      ⟨isCurrent_entry_eq_iff.mp hsame, hlogin.symm⟩
    have hoften : Outlasts dates collation (calls i) cache id id' := by
      refine hexpires.imp_right fun heq => ⟨heq.1, lt_of_le_of_ne heq.2 ?_⟩
      exact collation.ne_zero_of_ne hne
    refine .inr ⟨hsame, .inr ⟨hlogin, ?_⟩⟩
    exact (h.steady i j id id' hid hid' hrank hoften).imp_right fun heq => ⟨heq.1, heq.2.le⟩

/-- Where two calls rank the sessions in the same way, what outlasts for the one outlasts for the
other. -/
theorem outlasts_of_ranking_eq
    (hranking : ranking dates collation (calls i) userId currentSessionId cache =
      ranking dates collation (calls j) userId currentSessionId cache)
    (hid : Live userId cache id) (hid' : Live userId cache id')
    (hrank : SameRank dates currentSessionId cache id id')
    (hoften : Outlasts dates collation (calls i) cache id id') :
    Outlasts dates collation (calls j) cache id id' := by
  have hlogin := hrank.2
  have hne : id ≠ id' := by
    rintro rfl
    have hself := collation.neg_iff id id
    rcases hoften with hlt | ⟨_, hlt⟩
    · exact lt_irrefl _ hlt
    · omega
  have hcompare := collation.neg_iff id' id
  have hcompare' := collation.neg_iff id id'
  have hzero := collation.ne_zero_of_ne hne
  have hnot : ¬Precedes dates collation (calls i) currentSessionId cache id' id := by
    rw [Precedes, compareSessions_le_iff]
    rintro (⟨hcurrent, hother⟩ | ⟨_, hlater | ⟨_, hlater⟩⟩)
    · rw [isCurrent_entry_eq_iff.mpr hrank.1.symm, hother] at hcurrent
      cases hcurrent
    · exact absurd hlogin hlater.ne
    · rcases hoften with hlt | ⟨heq, hlt⟩
      · simp only [entry] at hlater
        omega
      · simp only [entry] at hlater
        omega
  by_contra hnever
  have hprecedes : Precedes dates collation (calls j) currentSessionId cache id' id := by
    rw [Precedes, compareSessions_le_iff]
    refine .inr ⟨isCurrent_entry_eq_iff.mpr hrank.1.symm, .inr ⟨hlogin, ?_⟩⟩
    rw [Outlasts] at hnever
    simp only [entry]
    omega
  -- In the one ranking of both calls the two sessions stand in one order or the other.
  let Both (x y : String) : Prop := Precedes dates collation (calls i) currentSessionId cache x y ∧
    Precedes dates collation (calls j) currentSessionId cache x y
  have hboth : (ranking dates collation (calls j) userId currentSessionId cache).Pairwise Both :=
    List.Pairwise.and (hranking ▸ pairwise_ranking) pairwise_ranking
  have hsorted : (ranking dates collation (calls j) userId currentSessionId cache).Pairwise
      fun x y => Both x y ∨ Both y x := hboth.imp .inl
  have : Std.Symm fun x y => Both x y ∨ Both y x := ⟨fun _ _ => Or.symm⟩
  rcases hsorted.forall (mem_ranking_iff.mpr hid) (mem_ranking_iff.mpr hid') hne with
    ⟨_, hfirst⟩ | ⟨hsecond, _⟩
  · exact hne (sessionId_eq_of_le_of_le hfirst hprecedes)
  · exact hnot hsecond

/-- Where the order is steady, all calls rank the sessions in the same way. -/
theorem SteadyOrder.ranking_eq
    (h : SteadyOrder dates collation calls userId currentSessionId cache) (i j : ι) :
    ranking dates collation (calls i) userId currentSessionId cache =
      ranking dates collation (calls j) userId currentSessionId cache :=
  ranking_congr (fun _ => Iff.rfl) fun _ _ hid hid' => h.precedes hid hid'

theorem SteadyOrder.pagesCover
    (h : SteadyOrder dates collation calls userId currentSessionId cache) (pageSize : Option ℚ)
    (choice : ℕ → ι) :
    PagesCover dates collation (fun page => calls (choice page)) userId currentSessionId pageSize
      cache := by
  refine (pagesCover_iff fun page => h.dated (choice page)).mpr ?_
  have hids : rankedIds dates collation (fun page => calls (choice page)) userId currentSessionId
      pageSize cache =
      ranking dates collation (calls (choice 1)) userId currentSessionId cache := by
    refine Eq.trans (List.flatMap_congr fun i _ => ?_)
      (Paging.flatMap_page (pageSizeOf_pos pageSize) _)
    rw [h.ranking_eq (choice (i + 1)) (choice 1)]
  rw [hids]
  exact ⟨nodup_ranking, fun id => mem_ranking_iff⟩

/-- A page beyond the end is the last one. -/
theorem listActiveSessions_beyond {k : SessionListCall} {pageSize : Option ℚ} {page : ℚ}
    {result : SessionListResult}
    (h : (listActiveSessions dates collation k userId currentSessionId (some page) pageSize
      cache).1 = .ok result) (hpage : result.totalPages < page) :
    (listActiveSessions dates collation k userId currentSessionId (some (result.totalPages : ℚ))
      pageSize cache).1 = .ok result := by
  by_cases hdated : AllDated dates k userId cache
  · rw [listActiveSessions_of_dated hdated] at h ⊢
    obtain rfl := Except.ok.inj h
    congr 1
    have htotal : (shownPage dates collation k userId currentSessionId (some page) pageSize
        cache).totalPages = pageTotal dates collation k userId currentSessionId pageSize cache := rfl
    rw [htotal] at hpage ⊢
    rw [shownPage, shownPage]
    rcases Nat.eq_zero_or_pos
        (pageTotal dates collation k userId currentSessionId pageSize cache) with hzero | hpos
    · simp only [if_pos hzero]
    · simp only [requested_natCast hpos, min_eq_right (le_requested hpage.le), min_self]
  · rw [listActiveSessions_of_not_dated hdated] at h
    cases h

/-- The list is right for all pages that the calls may show exactly if their order is steady. -/
theorem session_pages_iff (dates : Dates) (collation : Collation) (calls : ι → SessionListCall)
    (userId : String) (currentSessionId : Option String) (cache : SessionCache) :
    ListsSessions dates collation calls userId currentSessionId cache ↔
      SteadyOrder dates collation calls userId currentSessionId cache := by
  constructor
  · intro h
    have hdated : ∀ i, AllDated dates (calls i) userId cache := by
      intro i
      obtain ⟨first, hfirst, _⟩ := h.pages none fun _ => i
      by_contra hnot
      rw [listActiveSessions_of_not_dated hnot] at hfirst
      cases hfirst
    refine ⟨hdated, fun i j id id' hid hid' hrank hoften =>
      outlasts_of_ranking_eq ?_ hid hid' hrank hoften⟩
    -- pages of one session
    have hperm : ∀ i j, (ranking dates collation (calls i) userId currentSessionId cache).Perm
        (ranking dates collation (calls j) userId currentSessionId cache) := fun i j =>
      ranking_perm fun _ => Iff.rfl
    refine Paging.eq_of_forall_nodup_pages (fun k => (hperm k i).length_eq)
      (fun k l => (hperm k l).subset) (fun choice => ?_) i j
    obtain ⟨hnodup, _⟩ := (pagesCover_iff fun page => hdated (choice (page - 1))).mp
      (h.pages (some 1) fun page => choice (page - 1))
    have hsize : pageSizeOf (some 1) = 1 := by decide +kernel
    have htotal : pageTotal dates collation (calls (choice (1 - 1))) userId currentSessionId (some 1)
        cache = (ranking dates collation (calls i) userId currentSessionId cache).length := by
      rw [pageTotal, hsize, (hperm (choice (1 - 1)) i).length_eq, Paging.pageCount, Nat.cast_one,
        div_one, Nat.ceil_natCast]
    rw [rankedIds, htotal, hsize] at hnodup
    exact hnodup
  · intro h
    exact ⟨fun _ => ordersSessions_kept, h.pagesCover, fun _ _ _ _ => listActiveSessions_beyond⟩

end Steady

section Example

/-- Two sessions of a user that have never been given a time of login, with a minute to live each. -/
def twoSessions : SessionCache where
  index user := if user = "user" then ["a", "b"] else []
  nodup user := by split <;> simp
  metadata _ := ⟨[("userId", "user")], by simp⟩
  ttl _ := 60

/-- Calls between which the clock ticks list the sessions as they should. -/
theorem session_pages_iff_steadyClock :
    ListsSessions Dates.iso Collation.codePoints
      (fun late : Bool => .atTimes fun _ => if late then 1 else 0) "user" none twoSessions := by
  refine (session_pages_iff _ _ _ _ _ _).mpr ⟨fun late id _ _ => ?_, ?_⟩
  · have hsome : ∀ late : Bool, (Dates.iso.toISOString
        (((if late then 1 else 0 : ℕ) : ℤ) + 60 * 1000)).isSome = true := by
      decide +kernel
    have httl : 0 < twoSessions.ttl id := show (0 : ℤ) < 60 by decide
    rw [expiresAt, if_pos httl]
    exact hsome late
  · rintro _ _ id id' _ _ _ (hlater | ⟨_, hid⟩)
    · exact absurd hlater (lt_irrefl _)
    · exact .inr ⟨rfl, hid⟩

/-- Two calls: at the second the clock ticks between the sessions. -/
def ticking (ticks : Bool) : SessionListCall :=
  .atTimes fun sessionId => if ticks ∧ sessionId = "b" then 1 else 0

/-- The ids that an answer shows. -/
def answeredIds (answer : Except HttpError SessionListResult) : List String :=
  match answer with
  | .ok result => result.items.map SessionSummary.sessionId
  | .error _ => []

theorem shownIds_eq (results : List SessionListResult) :
    shownIds results = ((results.map .ok).map answeredIds).flatten := by
  rw [shownIds, List.map_flatMap, List.map_map]
  rfl

/-- The session that is first on the first page comes second when the second page is asked for, so
that it is on both. -/
theorem ticking_clock_repeats_session :
    ¬ListsSessions Dates.iso Collation.codePoints ticking "user" none twoSessions := by
  intro h
  obtain ⟨first, hfirst, results, hvisit, hshows⟩ := h.pages (some 1) fun page => page = 2
  have htotal : first.totalPages = 2 := by
    have hpages : ((listActiveSessions Dates.iso Collation.codePoints (ticking (decide (1 = 2)))
        "user" none (some 1) (some 1) twoSessions).1.toOption.map SessionListResult.totalPages) =
          some 2 := by decide +kernel
    rw [hfirst] at hpages
    exact Option.some.inj hpages
  have hids : ((visit Dates.iso Collation.codePoints (fun page => ticking (decide (page = 2))) "user"
      none (some 1) ((List.range 2).map (· + 1)) twoSessions).map answeredIds).flatten =
        ["a", "a"] := by decide +kernel
  rw [htotal] at hvisit
  rw [hvisit, ← shownIds_eq] at hids
  have honce := hshows.once
  rw [hids] at honce
  exact absurd honce (by decide)

end Example

end Invetrixa
