import SwarmFi.Core.Scanner.CacheRuns

/-!
# The rate of requests

The lock puts the requests in a row, and the timestamp of a cache that has
every scanned id keeps them apart.  An answer without prices, or one that
leaves a scanned id missing, does not set the limit: the next caller sends its
request at once.
-/

namespace SwarmFi.Core.Scanner

open Foundation Python

/-- When requests were started, the last one first. -/
def requestTimes : List PriceEvent → List Rat
  | [] => []
  | .requested now _ :: before => now :: requestTimes before
  | .served _ _ :: before => requestTimes before
  | .received _ _ :: before => requestTimes before

/-- No two requests are started less than the time to live apart. -/
def RateLimited (trace : List PriceEvent) : Prop :=
  (requestTimes trace).Pairwise fun later earlier =>
    cacheTtlSecs ≤ later - earlier

/-- Whoever calls is a scan. -/
def CalledByScan : PriceMove → Prop
  | .call ids => ids = Fetch.scannedIds
  | _ => True

/-- A request is answered with prices, and no scanned id is missing then. -/
def Fills (loop : PriceLoop) : PriceMove → Prop
  | .answer answer =>
      loop.request.isSome →
        ∃ body ∈ answer.fresh, ∀ id ∈ Fetch.scannedIds,
          body.contains id = true ∨ loop.cache.prices.contains id = true
  | _ => True

instance Fills.decidable (loop : PriceLoop) :
    ∀ move, Decidable (Fills loop move)
  | .answer answer =>
      inferInstanceAs (Decidable
        (loop.request.isSome →
          ∃ body ∈ answer.fresh, ∀ id ∈ Fetch.scannedIds,
            body.contains id = true ∨
              loop.cache.prices.contains id = true))
  | .tick _ => isTrue trivial
  | .call _ => isTrue trivial
  | .enter _ => isTrue trivial

/-- The timestamp is that of the last request, as soon as it is answered. -/
structure Paced (loop : PriceLoop) : Prop where
  scans : ∀ ids ∈ loop.waiting, ids = Fetch.scannedIds
  limited : RateLimited loop.trace
  pending : ∀ request ∈ loop.request, ∀ startedAt ∈
    requestTimes loop.trace, startedAt ≤ request.sentAt
  stamped : loop.request = none → ∀ startedAt ∈ requestTimes loop.trace,
    startedAt ≤ loop.cache.cachedAt ∧
      ∀ id ∈ Fetch.scannedIds, loop.cache.prices.contains id = true

namespace Paced

variable {loop : PriceLoop}

theorem start (clock : Rat) : Paced (PriceLoop.start clock) where
  scans := by
    intro ids absent
    cases absent
  limited := List.Pairwise.nil
  pending := by
    intro request absent
    cases absent
  stamped := by
    intro _ startedAt absent
    cases absent

theorem serve (paced : Paced loop) (ids : List String) :
    Paced (loop.serve ids) where
  scans := paced.scans
  limited := paced.limited
  pending := paced.pending
  stamped := paced.stamped

theorem rewait (paced : Paced loop) {waiting : List (List String)}
    (scans : ∀ ids ∈ waiting, ids = Fetch.scannedIds) :
    Paced { loop with waiting := waiting } where
  scans := scans
  limited := paced.limited
  pending := paced.pending
  stamped := paced.stamped

theorem call (paced : Paced loop) : Paced (loop.call Fetch.scannedIds) := by
  unfold PriceLoop.call
  by_cases serves :
      loop.cache.serves loop.clock Fetch.scannedIds = true
  · rw [if_pos serves]
    exact paced.serve _
  · rw [if_neg serves]
    apply paced.rewait
    intro ids member
    rcases List.mem_append.mp member with earlier | last
    · exact paced.scans ids earlier
    · exact List.mem_singleton.mp last

/-- A request is sent only when the timestamp is old, or when there was no
request before. -/
theorem stale_of_unserved (paced : Paced loop)
    (idle : loop.request = none)
    (unserved :
      ¬ loop.cache.serves loop.clock Fetch.scannedIds = true) :
    ∀ startedAt ∈ requestTimes loop.trace,
      cacheTtlSecs ≤ loop.clock - startedAt := by
  intro startedAt started
  obtain ⟨before, present⟩ := paced.stamped idle startedAt started
  have stale : ¬ loop.clock - loop.cache.cachedAt < cacheTtlSecs := by
    intro young
    apply unserved
    rw [PriceCache.serves_iff]
    refine ⟨young, ?_⟩
    intro id scanned
    exact (Mapping.contains_eq_true_iff _ _).mp (present id scanned)
  calc
    cacheTtlSecs ≤ loop.clock - loop.cache.cachedAt := not_lt.mp stale
    _ ≤ loop.clock - startedAt := sub_le_sub_left before loop.clock

theorem recheck (paced : Paced loop) (idle : loop.request = none) :
    Paced (loop.recheck Fetch.scannedIds) := by
  unfold PriceLoop.recheck
  by_cases serves :
      loop.cache.serves loop.clock Fetch.scannedIds = true
  · rw [if_pos serves]
    exact paced.serve _
  · rw [if_neg serves]
    have apart := paced.stale_of_unserved idle serves
    constructor
    · exact paced.scans
    · exact List.Pairwise.cons apart paced.limited
    · intro request isRequest startedAt started
      cases isRequest
      rcases List.mem_cons.mp started with same | earlier
      · exact same.le
      · have positive : (0 : Rat) ≤ cacheTtlSecs := by
          unfold cacheTtlSecs
          norm_num
        exact sub_nonneg.mp (positive.trans (apart startedAt earlier))
    · intro busy
      cases busy

theorem enter (paced : Paced loop) (place : Nat) :
    Paced (loop.enter place) := by
  unfold PriceLoop.enter
  split
  · next ids idle isPlace =>
      have scan := paced.scans ids (List.mem_of_getElem? isPlace)
      rw [scan]
      refine Paced.recheck (paced.rewait ?_) idle
      intro others member
      exact paced.scans others (List.mem_of_mem_eraseIdx member)
  · exact paced

theorem answered (paced : Paced loop) {answer : Answer}
    (fills : Fills loop (.answer answer)) : Paced (loop.answered answer) := by
  unfold PriceLoop.answered
  cases isRequest : loop.request with
  | none => exact paced
  | some request =>
      have isSome : loop.request.isSome = true := by
        rw [isRequest]
        rfl
      obtain ⟨body, isFresh, complete⟩ := fills isSome
      have isFresh : answer.fresh = some body := isFresh
      unfold PriceCache.receive
      rw [isFresh]
      constructor
      · exact paced.scans
      · exact paced.limited
      · intro other absent
        cases absent
      · intro _ startedAt started
        refine ⟨paced.pending request isRequest startedAt started, ?_⟩
        intro id scanned
        dsimp only
        rw [Mapping.contains, PriceCache.get?_merge, Option.isSome_or,
          Bool.or_eq_true]
        exact complete id scanned

theorem next (paced : Paced loop) {move : PriceMove}
    (met : CalledByScan move ∧ Fills loop move) :
    Paced (loop.next move) := by
  cases move with
  | tick elapsed =>
      exact ⟨paced.scans, paced.limited, paced.pending, paced.stamped⟩
  | call ids =>
      have scan : ids = Fetch.scannedIds := met.1
      rw [scan]
      exact paced.call
  | enter place => exact paced.enter place
  | answer answer => exact paced.answered met.2

end Paced

/-- Scans are rate limited as long as every request is answered with prices
that leave no scanned id missing. -/
theorem run_rateLimited {clock : Rat} {moves : List PriceMove}
    (scans : ∀ move ∈ moves, CalledByScan move)
    (fills : Meets PriceLoop.next Fills (.start clock) moves) :
    RateLimited (runMoves PriceLoop.next (.start clock) moves).trace := by
  have met := fills.and_of_forall scans
  exact (met.invariant (fun _ _ admitted paced => paced.next admitted)
    (Paced.start clock)).limited

theorem run_rateLimited_three :
    RateLimited (runMoves PriceLoop.next (.start 1000)
      (threeScans (PriceCache.merge ethereumQuote bitcoinQuote)
        bitcoinQuote)).trace := by
  apply run_rateLimited
  · simp [threeScans, CalledByScan]
  · decide +kernel

/-! ## A refused request -/

/-- Two scans come at once, and the first one is refused. -/
def refusedScans : List PriceMove :=
  [.call Fetch.scannedIds, .call Fetch.scannedIds, .enter 0,
    .answer (.ok ⟨429, "Too Many Requests", "/simple/price", .ok .empty⟩),
    .enter 0]

theorem refused_request_repeated :
    ¬ ∀ (clock : Rat) (moves : List PriceMove),
      (∀ move ∈ moves, CalledByScan move) →
        RateLimited
          (runMoves PriceLoop.next (.start clock) moves).trace := by
  intro always
  have scans : ∀ move ∈ refusedScans, CalledByScan move := by
    simp [refusedScans, CalledByScan]
  have limited := always 1000 refusedScans scans
  have twice : requestTimes
      (runMoves PriceLoop.next (.start 1000) refusedScans).trace =
        [1000, 1000] := by
    decide +kernel
  rw [RateLimited, twice] at limited
  have apart := (List.pairwise_cons.mp limited).1 1000 List.mem_cons_self
  rw [cacheTtlSecs, sub_self] at apart
  exact absurd apart (by norm_num)

end SwarmFi.Core.Scanner
