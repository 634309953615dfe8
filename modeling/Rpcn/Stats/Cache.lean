/-
  File:      Rpcn/Stats/Cache.lean
  Subject:   THE CACHE OF THE STATISTICS (stat_server.rs, the three request handlers): how old a response
             can be and how often one is made.

  Each entry keeps a time and a response. A request makes the response anew if the time is more than
  `cache_life` seconds ago. The entries of the scores then store the new time; the entry of the usage
  statistics does not, and a new entry counts as made at time zero although it has no response yet.
-/
import Mathlib.Data.List.Chain
import Rpcn.Lib.HashMap
import Rpcn.Lib.Run
import Rpcn.Np2Structs

namespace Rpcn

open Lib

/-! ## 1. The handlers -/

structure StatResponse where
  body : List Char
  generated : Option UInt32
  deriving DecidableEq

structure CachedResponse where
  timestamp : UInt32
  cachedResponse : StatResponse
  deriving DecidableEq

def CachedResponse.new : CachedResponse := ⟨0, ⟨[], none⟩⟩

structure JsonCache where
  usageCache : CachedResponse
  tableCache : HashMap ComId (HashMap UInt32 CachedResponse)
  comIdCache : HashMap ComId CachedResponse

def JsonCache.new : JsonCache := ⟨.new, ∅, ∅⟩

structure Served where
  response : StatResponse
  regenerated : Bool
  deriving DecidableEq

def Served.direct (body : List Char) (now : UInt32) : Served := ⟨⟨body, some now⟩, true⟩

section Handlers

variable (cacheLife now : UInt32)

/-- `handle_usage_req`. The new response is kept; the time is not stored. -/
def handleUsageReq (json : List Char) (cache : JsonCache) : Served × JsonCache :=
  if cacheLife = 0 then (.direct json now, cache)
  else if now > cache.usageCache.timestamp + cacheLife then
    (.direct json now,
      { cache with usageCache := { cache.usageCache with cachedResponse := ⟨json, some now⟩ } })
  else (⟨cache.usageCache.cachedResponse, false⟩, cache)

def CachedResponse.refresh (json : List Char) (cached : CachedResponse) : Served × CachedResponse :=
  if now > cached.timestamp + cacheLife then (.direct json now, ⟨now, ⟨json, some now⟩⟩)
  else (⟨cached.cachedResponse, false⟩, cached)

def handleComIdScoreReq (comId : ComId) (json : List Char) (cache : JsonCache) :
    Served × JsonCache :=
  if cacheLife = 0 then (.direct json now, cache)
  else
    let r := ((cache.comIdCache.get? comId).getD .new).refresh cacheLife now json
    (r.1, { cache with comIdCache := cache.comIdCache.insert comId r.2 })

/-- `handle_table_score_req`. There is nothing to generate for a board that does not exist: the
    response is empty, and no entry is touched. -/
def handleTableScoreReq (comId : ComId) (tableId : UInt32) (json : Option (List Char))
    (cache : JsonCache) : Served × JsonCache :=
  match json with
  | none => (⟨⟨[], some now⟩, false⟩, cache)
  | some json =>
    if cacheLife = 0 then (.direct json now, cache)
    else
      let r := ((cache.tableCache.get2? comId tableId).getD .new).refresh cacheLife now json
      (r.1, { cache with tableCache := cache.tableCache.insert2 comId tableId r.2 })

end Handlers

inductive StatRequest where
  | usage (json : List Char)
  | comIdScore (comId : ComId) (json : List Char)
  | tableScore (comId : ComId) (tableId : UInt32) (json : Option (List Char))
  deriving DecidableEq

structure TimedRequest where
  now : UInt32
  request : StatRequest
  deriving DecidableEq

def JsonCache.serve (cacheLife : UInt32) (cache : JsonCache) (r : TimedRequest) :
    Served × JsonCache :=
  match r.request with
  | .usage json => handleUsageReq cacheLife r.now json cache
  | .comIdScore comId json => handleComIdScoreReq cacheLife r.now comId json cache
  | .tableScore comId tableId json => handleTableScoreReq cacheLife r.now comId tableId json cache

/-! ## 2. The law -/

def JsonCache.entry? (cache : JsonCache) : StatRequest → Option CachedResponse
  | .usage _ => some cache.usageCache
  | .comIdScore comId _ => cache.comIdCache.get? comId
  | .tableScore comId tableId _ => cache.tableCache.get2? comId tableId

def JsonCache.lastGenerated (cache : JsonCache) (request : StatRequest) : Option UInt32 :=
  (cache.entry? request).bind fun cached => cached.cachedResponse.generated

/-- **The law of a request** at a time, for an entry that was generated last at `last`: it is
    generated again only if more than `cache_life` seconds have passed since, and the response was
    generated `cache_life` seconds ago at most. -/
structure CacheLaw (cacheLife now : UInt32) (last : Option UInt32) (served : Served) : Prop where
  regenerated : served.regenerated = true →
    ∀ t ∈ last, t.toNat + cacheLife.toNat < now.toNat
  recent : ∃ t, served.response.generated = some t ∧
    t.toNat ≤ now.toNat ∧ now.toNat - t.toNat ≤ cacheLife.toNat

def JsonCache.Lawful (cacheLife : UInt32) (cache : JsonCache) (r : TimedRequest) : Prop :=
  CacheLaw cacheLife r.now (cache.lastGenerated r.request) (cache.serve cacheLife r).1

def StatRequest.reaches : StatRequest → Bool
  | .usage _ => true
  | .comIdScore _ _ => true
  | .tableScore _ _ json => json.isSome

def StatRequest.isUsage : StatRequest → Bool
  | .usage _ => true
  | _ => false

def usageTimes (rs : List TimedRequest) : List UInt32 :=
  (rs.filter fun r => r.request.isUsage).map TimedRequest.now

/-! ## 3. Entries from request to request -/

structure CachedResponse.Sound (cacheLife bound : UInt32) (cached : CachedResponse) : Prop where
  generated : cached.cachedResponse.generated = some cached.timestamp
  late : cacheLife.toNat < cached.timestamp.toNat
  past : cached.timestamp.toNat ≤ bound.toNat

/-- **What holds between requests**: the entries of the scores are sound; that of the usage statistics
    has time zero, and was generated with the last request for it. -/
structure Tracks (cacheLife bound : UInt32) (lastUsage : Option UInt32) (cache : JsonCache) :
    Prop where
  usage : cache.usageCache.timestamp = 0 ∧ cache.usageCache.cachedResponse.generated = lastUsage
  lateUsage : ∀ t ∈ lastUsage, cacheLife.toNat < t.toNat ∧ t.toNat ≤ bound.toNat
  comIds : ∀ comId cached, cache.comIdCache.get? comId = some cached →
    cached.Sound cacheLife bound
  tables : ∀ comId tableId cached, cache.tableCache.get2? comId tableId = some cached →
    cached.Sound cacheLife bound

theorem tracks_new (cacheLife : UInt32) : Tracks cacheLife 0 none .new where
  usage := ⟨rfl, rfl⟩
  lateUsage t h := by cases h
  comIds comId cached h := by simp [JsonCache.new] at h
  tables comId tableId cached h := by simp [JsonCache.new] at h

variable {last : Option UInt32}

variable {lastUsage : Option UInt32} {cache : JsonCache}

section Step

variable {cacheLife bound now : UInt32}

theorem CachedResponse.Sound.mono {cached : CachedResponse} (h : cached.Sound cacheLife bound)
    (hbound : bound.toNat ≤ now.toNat) : cached.Sound cacheLife now :=
  ⟨h.generated, h.late, h.past.trans hbound⟩

theorem Tracks.mono (h : Tracks cacheLife bound lastUsage cache)
    (hbound : bound.toNat ≤ now.toNat) :
    Tracks cacheLife now lastUsage cache where
  usage := h.usage
  lateUsage t ht := ⟨(h.lateUsage t ht).1, (h.lateUsage t ht).2.trans hbound⟩
  comIds comId cached hc := (h.comIds comId cached hc).mono hbound
  tables comId tableId cached hc := (h.tables comId tableId cached hc).mono hbound

theorem isStale_iff {timestamp : UInt32} (h : timestamp.toNat ≤ now.toNat)
    (hroom : now.toNat + cacheLife.toNat < 2 ^ 32) :
    now > timestamp + cacheLife ↔ timestamp.toNat + cacheLife.toNat < now.toNat := by
  rw [gt_iff_lt, UInt32.lt_iff_toNat_lt, UInt32.toNat_add, Nat.mod_eq_of_lt (by omega)]

theorem cacheLaw_direct (body : List Char) :
    CacheLaw cacheLife now last (.direct body now) ↔
      ∀ t ∈ last, t.toNat + cacheLife.toNat < now.toNat :=
  ⟨fun h => h.regenerated rfl, fun h => ⟨fun _ => h, now, rfl, Nat.le_refl _, by omega⟩⟩

theorem not_cacheLaw_of_none {served : Served} (h : served.response.generated = none) :
    ¬ CacheLaw cacheLife now last served := by
  rintro ⟨-, t, ht, -⟩
  rw [h] at ht
  cases ht

section Refresh

variable {e : Option CachedResponse} (hs : ∀ cached ∈ e, cached.Sound cacheLife now)
  (hroom : now.toNat + cacheLife.toNat < 2 ^ 32) (json : List Char)

include hs hroom

theorem refresh_law (hlate : cacheLife.toNat < now.toNat) :
    CacheLaw cacheLife now (e.bind fun cached => cached.cachedResponse.generated)
        ((e.getD .new).refresh cacheLife now json).1 ∧
      ((e.getD .new).refresh cacheLife now json).2.Sound cacheLife now := by
  have hnew : CachedResponse.Sound cacheLife now ⟨now, ⟨json, some now⟩⟩ :=
    ⟨rfl, hlate, Nat.le_refl _⟩
  unfold CachedResponse.refresh
  cases e with
  | none =>
    have hstale : now > CachedResponse.new.timestamp + cacheLife :=
      (isStale_iff (Nat.zero_le _) hroom).mpr (by simpa [CachedResponse.new] using hlate)
    rw [Option.getD_none, if_pos hstale]
    exact ⟨(cacheLaw_direct json).mpr fun t ht => (by cases ht), hnew⟩
  | some cached =>
    have hc := hs cached rfl
    have hstale := isStale_iff hc.past hroom
    rw [Option.getD_some, Option.bind_some, hc.generated]
    split
    · rename_i h
      refine ⟨(cacheLaw_direct json).mpr fun t ht => ?_, hnew⟩
      cases ht
      exact hstale.mp h
    · rename_i h
      refine ⟨⟨fun h' => (by cases h'), cached.timestamp, hc.generated, hc.past, ?_⟩, hc⟩
      have hrecent := mt hstale.mpr h
      omega

theorem refresh_early (hearly : now.toNat ≤ cacheLife.toNat) :
    ((e.getD .new).refresh cacheLife now json).1.response.generated = none := by
  cases e with
  | none =>
    have hstale : ¬ now > CachedResponse.new.timestamp + cacheLife := by
      rw [isStale_iff (Nat.zero_le _) hroom]
      omega
    rw [Option.getD_none, CachedResponse.refresh, if_neg hstale]
    rfl
  | some cached =>
    have hc := hs cached rfl
    have := hc.late
    have := hc.past
    omega

end Refresh

end Step

theorem usage_law {cacheLife now : UInt32} (hlife : cacheLife ≠ 0)
    (h : Tracks cacheLife now lastUsage cache) (hroom : now.toNat + cacheLife.toNat < 2 ^ 32)
    (json : List Char) :
    CacheLaw cacheLife now lastUsage (handleUsageReq cacheLife now json cache).1 ↔
      cacheLife.toNat < now.toNat ∧ ∀ t ∈ lastUsage, t.toNat + cacheLife.toNat < now.toNat := by
  have hstale : now > cache.usageCache.timestamp + cacheLife ↔ cacheLife.toNat < now.toNat := by
    rw [h.usage.1, isStale_iff (Nat.zero_le _) hroom, UInt32.toNat_zero, Nat.zero_add]
  unfold handleUsageReq
  rw [if_neg hlife]
  by_cases hlate : cacheLife.toNat < now.toNat
  · rw [if_pos (hstale.mpr hlate), cacheLaw_direct, and_iff_right hlate]
  · rw [if_neg (mt hstale.mp hlate)]
    refine iff_of_false (not_cacheLaw_of_none ?_) fun hboth => hlate hboth.1
    cases lastUsage with
    | none => exact h.usage.2
    | some t =>
      have := h.lateUsage t rfl
      omega

/-- When the usage statistics were generated last, after a request. -/
def lastUsageAfter (r : TimedRequest) (lastUsage : Option UInt32) : Option UInt32 :=
  if r.request.isUsage then some r.now else lastUsage

theorem chain_usageTimes (r : TimedRequest) (rs : List TimedRequest) (lastUsage : Option UInt32)
    (apart : UInt32 → UInt32 → Prop) :
    (lastUsage.toList ++ usageTimes (r :: rs)).IsChain apart ↔
      (r.request.isUsage = true → ∀ t ∈ lastUsage, apart t r.now) ∧
        ((lastUsageAfter r lastUsage).toList ++ usageTimes rs).IsChain apart := by
  unfold usageTimes lastUsageAfter
  by_cases husage : r.request.isUsage = true
  · rw [List.filter_cons_of_pos (by simpa using husage), if_pos husage]
    cases lastUsage with
    | none => simp
    | some t => simp [husage]
  · rw [List.filter_cons_of_neg (by simpa using husage), if_neg husage]
    simp [husage]

variable {r : TimedRequest}

section Requests

variable {cacheLife bound : UInt32} (hlife : cacheLife ≠ 0) {lastUsage : Option UInt32}
  {cache : JsonCache}

include hlife

theorem lawful_iff (h : Tracks cacheLife r.now lastUsage cache)
    (hroom : r.now.toNat + cacheLife.toNat < 2 ^ 32) : cache.Lawful cacheLife r ↔
    (r.request.reaches = true → cacheLife.toNat < r.now.toNat) ∧
      (r.request.isUsage = true →
        ∀ t ∈ lastUsage, t.toNat + cacheLife.toNat < r.now.toNat) := by
  obtain ⟨now, request⟩ := r
  have hscore {e : Option CachedResponse} (hs : ∀ cached ∈ e, cached.Sound cacheLife now)
      (json : List Char) : CacheLaw cacheLife now
          (e.bind fun cached => cached.cachedResponse.generated)
          ((e.getD .new).refresh cacheLife now json).1 ↔ cacheLife.toNat < now.toNat := by
    by_cases hlate : cacheLife.toNat < now.toNat
    · exact iff_of_true (refresh_law hs hroom json hlate).1 hlate
    · exact iff_of_false (not_cacheLaw_of_none (refresh_early hs hroom json (by omega))) hlate
  cases request with
  | usage json =>
    have hgenerated : cache.lastGenerated (.usage json) = lastUsage := h.usage.2
    unfold JsonCache.Lawful
    rw [hgenerated]
    exact (usage_law hlife h hroom json).trans (by simp [StatRequest.reaches, StatRequest.isUsage])
  | comIdScore comId json =>
    have hlaw := hscore (h.comIds comId) json
    unfold JsonCache.Lawful JsonCache.serve handleComIdScoreReq
    simp only [if_neg hlife]
    exact hlaw.trans (by simp [StatRequest.reaches, StatRequest.isUsage])
  | tableScore comId tableId json =>
    cases json with
    | none =>
      have hnow : now.toNat - now.toNat ≤ cacheLife.toNat := by omega
      refine iff_of_true ⟨fun hr => (by cases hr), now, rfl, Nat.le_refl _, hnow⟩ ?_
      simp [StatRequest.reaches, StatRequest.isUsage]
    | some json =>
      have hlaw := hscore (h.tables comId tableId) json
      unfold JsonCache.Lawful JsonCache.serve handleTableScoreReq
      simp only [if_neg hlife]
      exact hlaw.trans (by simp [StatRequest.reaches, StatRequest.isUsage])

theorem tracks_serve (h : Tracks cacheLife r.now lastUsage cache)
    (hroom : r.now.toNat + cacheLife.toNat < 2 ^ 32)
    (hlate : r.request.reaches = true → cacheLife.toNat < r.now.toNat) :
    Tracks cacheLife r.now (lastUsageAfter r lastUsage) (cache.serve cacheLife r).2 := by
  obtain ⟨now, request⟩ := r
  cases request with
  | usage json =>
    have hstale : now > cache.usageCache.timestamp + cacheLife := by
      rw [h.usage.1, isStale_iff (Nat.zero_le _) hroom, UInt32.toNat_zero, Nat.zero_add]
      exact hlate rfl
    unfold JsonCache.serve handleUsageReq
    simp only [if_neg hlife, if_pos hstale]
    refine ⟨⟨h.usage.1, rfl⟩, ?_, h.comIds, h.tables⟩
    rintro t ⟨⟩
    exact ⟨hlate rfl, Nat.le_refl _⟩
  | comIdScore comId json =>
    have hsound := (refresh_law (h.comIds comId) hroom json (hlate rfl)).2
    unfold JsonCache.serve handleComIdScoreReq
    simp only [if_neg hlife]
    refine ⟨h.usage, h.lateUsage, ?_, h.tables⟩
    intro comId' cached hc
    rw [HashMap.get?_insert] at hc
    split at hc
    · cases hc
      exact hsound
    · exact h.comIds comId' cached hc
  | tableScore comId tableId json =>
    cases json with
    | none => exact h
    | some json =>
      have hsound := (refresh_law (h.tables comId tableId) hroom json (hlate rfl)).2
      unfold JsonCache.serve handleTableScoreReq
      simp only [if_neg hlife]
      refine ⟨h.usage, h.lateUsage, h.comIds, ?_⟩
      intro comId' tableId' cached hc
      rw [HashMap.get2?_insert2] at hc
      split at hc
      · cases hc
        exact hsound
      · exact h.tables comId' tableId' cached hc

/-! ## 4. Sequences of requests -/

theorem along_lawful_iff : ∀ (rs : List TimedRequest) {bound : UInt32} {lastUsage : Option UInt32}
    {cache : JsonCache}, Tracks cacheLife bound lastUsage cache →
    (∀ r ∈ rs, bound.toNat ≤ r.now.toNat) → rs.Pairwise (fun a b => a.now ≤ b.now) →
    (∀ r ∈ rs, r.now.toNat + cacheLife.toNat < 2 ^ 32) →
    (Along (fun cache r => (cache.serve cacheLife r).2) (JsonCache.Lawful cacheLife) cache rs ↔
      (∀ r ∈ rs, r.request.reaches = true → cacheLife.toNat < r.now.toNat) ∧
        (lastUsage.toList ++ usageTimes rs).IsChain
          fun t t' => t.toNat + cacheLife.toNat < t'.toNat)
  | [], _, lastUsage, cache, _, _, _, _ => by
      refine iff_of_true (along_nil _ _ _) ⟨fun r hr => absurd hr List.not_mem_nil, ?_⟩
      cases lastUsage with
      | none => exact .nil
      | some t => exact .singleton t
  | r :: rs, bound, lastUsage, cache, h, hbound, hsorted, hroom => by
      rw [List.pairwise_cons] at hsorted
      rw [List.forall_mem_cons] at hroom
      have htracks := h.mono (hbound r List.mem_cons_self)
      rw [along_cons, lawful_iff hlife htracks hroom.1, List.forall_mem_cons, chain_usageTimes]
      by_cases hlate : r.request.reaches = true → cacheLife.toNat < r.now.toNat
      · have ih := along_lawful_iff rs (tracks_serve hlife htracks hroom.1 hlate)
          (fun r' hr' => UInt32.le_iff_toNat_le.mp (hsorted.1 r' hr')) hsorted.2 hroom.2
        rw [ih]
        exact and_and_and_comm
      · exact iff_of_false (fun hlaw => hlate hlaw.1.1) fun hlaw => hlate hlaw.1.1

end Requests

/-- **The cache of the statistics keeps its law** exactly if every request comes after `cache_life`
    and those for the usage statistics are further apart than it. For every `cache_life` other than
    zero and every sequence of requests to a new cache, with times that do not decrease and leave
    room for `cache_life`: each entry is generated again only if more than `cache_life` seconds have
    passed since it was last generated, and each response was generated `cache_life` seconds before
    at most, exactly if

    * every request that is about an entry has a time greater than `cache_life`, and
    * each request for the usage statistics comes more than `cache_life` seconds after the one
      before. -/
theorem stat_cache_law (cacheLife : UInt32) (hlife : cacheLife ≠ 0) (rs : List TimedRequest)
    (hsorted : rs.Pairwise fun a b => a.now ≤ b.now)
    (hroom : ∀ r ∈ rs, r.now.toNat + cacheLife.toNat < 2 ^ 32) :
    Along (fun cache r => (cache.serve cacheLife r).2) (JsonCache.Lawful cacheLife) .new rs ↔
      (∀ r ∈ rs, r.request.reaches = true → cacheLife.toNat < r.now.toNat) ∧
        (usageTimes rs).IsChain fun t t' => t.toNat + cacheLife.toNat < t'.toNat := by
  have hlaw := along_lawful_iff hlife rs (tracks_new cacheLife) (fun _ _ => Nat.zero_le _) hsorted
    hroom
  simpa using hlaw

def minute : List TimedRequest :=
  [⟨100, .usage ['u']⟩, ⟨101, .comIdScore (Vector.replicate 12 0x41) ['c']⟩,
    ⟨102, .tableScore (Vector.replicate 12 0x41) 1 (some ['t'])⟩,
    ⟨103, .tableScore (Vector.replicate 12 0x41) 1 (some ['s'])⟩, ⟨161, .usage ['v']⟩]

theorem stat_cache_law_minute :
    Along (fun cache r => (cache.serve 60 r).2) (JsonCache.Lawful 60) .new minute :=
  (stat_cache_law 60 (by decide) minute (by decide) (by decide)).mpr ⟨by decide, by decide⟩

/-- **The usage statistics are generated with every request**: the second comes a second after the
    first. And the first request of all gets the empty response of a new entry if the clock has not
    passed `cache_life`. -/
theorem usage_regenerated_at_once :
    (JsonCache.new.serve 60 ⟨100, .usage ['u']⟩).1.response.generated = some 100 ∧
      ((JsonCache.new.serve 60 ⟨100, .usage ['u']⟩).2.serve 60 ⟨101, .usage ['v']⟩).1.regenerated =
        true ∧
      (JsonCache.new.serve 60 ⟨60, .comIdScore (Vector.replicate 12 0x41) ['c']⟩).1.response =
        ⟨[], none⟩ := by
  decide

end Rpcn
