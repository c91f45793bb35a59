import Mathlib.Data.List.Nodup
import SpriteStage.Proofs.Collision.Selection
import SpriteStage.Proofs.Stage.Touches

/-!
# Collisions are resolved by a greedy matching

A scan meets each pair of actors that are near each other once (`Scanned`). Of these a pair trades
exactly if its actors are free when its turn comes (`GreedyMatching`), and a trade concerns nothing but
the programs, cursors and bubbles of its two actors and the timers of those bubbles (`Traded`). Main
statement: `resolves_greedily`. What is left over when all trades are made has a busy actor in every
pair, so that resolving once more changes nothing.
-/

namespace SpriteStage

/-! ### The scan -/

/-- The pair of the actors at two places. -/
def pairAt (actors : List Actor) (place : Nat × Nat) : Option ActorPair := do
  let a ← actors[place.1]?
  let b ← actors[place.2]?
  return .of a.id b.id

/-- Colliding pairs in the order of a scan: each actor in its place with every later one that is closer
than the distance. -/
structure Scanned (distance : Float) (actors : List Actor) (places : List (Nat × Nat)) : Prop where
  ordered : places.Pairwise fun first next => first.1 < next.1 ∨ first.1 = next.1 ∧ first.2 < next.2
  colliding : ∀ i j : Nat, (i, j) ∈ places ↔ i < j ∧ ∃ a b, actors[i]? = some a ∧ actors[j]? = some b ∧
    hypotenuse (a.x - b.x) (a.y - b.y) < distance
  pairs : collidingPairs distance actors = places.filterMap (pairAt actors)

theorem Actor.near_iff {distance : Float} {a b : Actor} :
    a.near distance b = true ↔ hypotenuse (a.x - b.x) (a.y - b.y) < distance := decide_eq_true_iff

/-- The places of an actor in front and of every later one that is near it. -/
def placesInFront (distance : Float) (head : Actor) (rest : List Actor) : List (Nat × Nat) :=
  ((rest.zipIdx 1).filter fun entry => head.near distance entry.1).map fun entry => (0, entry.2)

section

variable {distance : Float} {head : Actor} {rest : List Actor} {places : List (Nat × Nat)}

theorem mem_zipIdx_one {b : Actor} {j : Nat} :
    (b, j) ∈ rest.zipIdx 1 ↔ ∃ k, j = k + 1 ∧ rest[k]? = some b := by
  rw [List.mk_mem_zipIdx_iff_le_and_getElem?_sub]
  constructor
  · rintro ⟨positive, here⟩
    exact ⟨j - 1, (Nat.sub_add_cancel positive).symm, here⟩
  · rintro ⟨k, rfl, here⟩
    exact ⟨Nat.le_add_left 1 k, here⟩

theorem mem_placesInFront {i j : Nat} : (i, j) ∈ placesInFront distance head rest ↔
    i = 0 ∧ ∃ b k, j = k + 1 ∧ rest[k]? = some b ∧ head.near distance b = true := by
  simp only [placesInFront, List.mem_map, List.mem_filter, Prod.exists, Prod.mk.injEq, mem_zipIdx_one]
  constructor
  · rintro ⟨b, _, ⟨⟨k, rfl, here⟩, near⟩, rfl, rfl⟩
    exact ⟨rfl, b, k, rfl, here, near⟩
  · rintro ⟨rfl, b, k, rfl, here, near⟩
    exact ⟨b, k + 1, ⟨⟨k, rfl, here⟩, near⟩, rfl, rfl⟩

theorem pairs_placesInFront : (placesInFront distance head rest).filterMap (pairAt (head :: rest)) =
    (rest.filter (head.near distance)).map fun b => .of head.id b.id := by
  have first (entry : Actor × Nat)
      (member : entry ∈ (rest.zipIdx 1).filter fun entry => head.near distance entry.1) :
      pairAt (head :: rest) (0, entry.2) = some (.of head.id entry.1.id) := by
    obtain ⟨k, same, here⟩ := mem_zipIdx_one.mp (List.mem_filter.mp member).1
    simp [pairAt, same, here]
  have front : ((rest.zipIdx 1).filter fun entry => head.near distance entry.1).map
      (fun entry => ActorPair.of head.id entry.1.id) =
      (rest.filter (head.near distance)).map fun b => .of head.id b.id := by
    conv_rhs => rw [← List.zipIdx_map_fst 1 rest, List.filter_map, List.map_map]
    rfl
  rw [placesInFront, List.filterMap_map, ← front, ← List.filterMap_eq_map]
  exact List.filterMap_congr first

/-- One more actor in front is scanned against all others first. -/
theorem Scanned.cons (head : Actor) (scanned : Scanned distance rest places) :
    Scanned distance (head :: rest)
      (placesInFront distance head rest ++ places.map fun place => (place.1 + 1, place.2 + 1)) := by
  refine ⟨List.pairwise_append.mpr ⟨?_, ?_, ?_⟩, fun i j => ?_, ?_⟩
  · have rising : (rest.zipIdx 1).Pairwise fun first next => first.2 < next.2 := by
      rw [← List.pairwise_map, List.zipIdx_map_snd]
      exact List.pairwise_lt_range'
    exact List.pairwise_map.mpr ((rising.filter _).imp fun below => .inr ⟨rfl, below⟩)
  · refine List.pairwise_map.mpr (scanned.ordered.imp fun {first next} order => ?_)
    dsimp only
    omega
  · intro first early next late
    obtain ⟨inFront, -⟩ := mem_placesInFront.mp early
    obtain ⟨_, -, rfl⟩ := List.mem_map.mp late
    exact .inl (inFront ▸ Nat.zero_lt_succ _)
  · simp only [List.mem_append, mem_placesInFront, List.mem_map, Prod.exists, Prod.mk.injEq, Actor.near_iff]
    constructor
    · rintro (⟨rfl, b, k, rfl, here, near⟩ | ⟨k, l, member, rfl, rfl⟩)
      · exact ⟨Nat.zero_lt_succ k, head, b, rfl, here, near⟩
      · obtain ⟨below, a, b, here, there, near⟩ := (scanned.colliding k l).mp member
        exact ⟨Nat.succ_lt_succ below, a, b, here, there, near⟩
    · rintro ⟨below, a, b, here, there, near⟩
      obtain ⟨l, rfl⟩ : ∃ l, j = l + 1 := ⟨j - 1, by omega⟩
      cases i with
      | zero =>
        cases here
        exact .inl ⟨rfl, b, l, rfl, there, near⟩
      | succ k =>
        refine .inr ⟨k, l, (scanned.colliding k l).mpr ⟨?_, a, b, here, there, near⟩, rfl, rfl⟩
        exact Nat.lt_of_succ_lt_succ below
  · have later : (places.map fun place => (place.1 + 1, place.2 + 1)).filterMap (pairAt (head :: rest)) =
        places.filterMap (pairAt rest) := by
      rw [List.filterMap_map]
      rfl
    rw [List.filterMap_append, pairs_placesInFront, later, ← scanned.pairs]
    rfl

end

theorem exists_scanned (distance : Float) (actors : List Actor) :
    ∃ places, Scanned distance actors places := by
  induction actors with
  | nil => exact ⟨[], .nil, by simp, rfl⟩
  | cons head rest ih =>
    obtain ⟨places, scanned⟩ := ih
    exact ⟨_, scanned.cons head⟩

/-- Who an actor is and how it stands. All else about it is its program, the cursor into it and its
bubble. -/
def Actor.standing (actor : Actor) : ActorId × String × Float × Float × Int :=
  (actor.id, actor.name, actor.x, actor.y, actor.heading)

/-- Who collides with whom hangs on how the actors stand, and on nothing else. -/
theorem collidingPairs_congr {distance : Float} {actors later : List Actor}
    (same : later.map Actor.standing = actors.map Actor.standing) :
    collidingPairs distance later = collidingPairs distance actors := by
  have through (head : Actor) (rest : List Actor) :
      (rest.filter (head.near distance)).map (fun b => ActorPair.of head.id b.id) =
        ((rest.map Actor.standing).filter fun (_, _, x, y, _) =>
          decide (hypotenuse (head.x - x) (head.y - y) < distance)).map fun (id, _) => .of head.id id := by
    rw [List.filter_map, List.map_map]
    rfl
  induction actors generalizing later with
  | nil =>
    rw [List.map_eq_nil_iff.mp same]
  | cons head rest ih =>
    obtain ⟨first, others, rfl, sameHead, sameRest⟩ := List.map_eq_cons_iff.mp same
    simp only [Actor.standing, Prod.mk.injEq] at sameHead
    obtain ⟨id, -, x, y, -⟩ := sameHead
    rw [collidingPairs, collidingPairs, through, through, ih sameRest, sameRest, id, x, y]

section

variable {distance : Float} {actors : List Actor}

/-- No pair of actors under different identifiers is met twice. -/
theorem nodup_collidingPairs (distinct : (actors.map (·.id)).Nodup) :
    (collidingPairs distance actors).Nodup := by
  induction actors with
  | nil => exact .nil
  | cons head rest ih =>
    rw [List.map_cons, List.nodup_cons] at distinct
    obtain ⟨alone, distinct⟩ := distinct
    have aloneAmong {b : Actor} (among : b ∈ rest) : b.id ≠ head.id :=
      fun same => alone (same ▸ List.mem_map_of_mem among)
    refine List.nodup_append.mpr ⟨?_, ih distinct, ?_⟩
    · -- The partner of the first actor is read off the pair.
      have others : (rest.filter (head.near distance)).Nodup := (List.Nodup.of_map _ distinct).filter _
      refine others.map_on fun b inB c inC same => ?_
      have inB := (List.mem_filter.mp inB).1
      have inC := (List.mem_filter.mp inC).1
      have involved : (ActorPair.of head.id c.id).involves b.id = true := by
        rw [← same]
        exact ActorPair.involves_of.mpr (.inr rfl)
      rcases ActorPair.involves_of.mp involved with first | second
      · exact absurd first.symm (aloneAmong inB)
      · exact List.inj_on_of_nodup_map distinct inB inC second.symm
    · -- No pair of the others involves the first actor.
      rintro pair early other late rfl
      obtain ⟨b, -, rfl⟩ := List.mem_map.mp early
      obtain ⟨-, first, second⟩ := present_of_mem_collidingPairs distinct late
      have involved : (ActorPair.of head.id b.id).involves head.id = true :=
        ActorPair.involves_of.mpr (.inl rfl)
      rcases ActorPair.involves_iff.mp involved with same | same
      · exact alone (same ▸ first)
      · exact alone (same ▸ second)

/-- The members of a pair of different actors stand in increasing order. -/
theorem first_lt_of_mem_collidingPairs (distinct : (actors.map (·.id)).Nodup) {pair : ActorPair}
    (member : pair ∈ collidingPairs distance actors) : pair.first < pair.second := by
  obtain ⟨different, -⟩ := present_of_mem_collidingPairs distinct member
  have order := ActorId.le_def.mp pair.first_le
  rw [ActorId.lt_def]
  rw [Ne, ActorId.ext_iff] at different
  omega

end

/-! ### The choice -/

/-- What a greedy choice among pairs keeps, and who is busy with it. -/
structure GreedyMatching (busy : IdSet) (pairs kept : List ActorPair) (later : IdSet) : Prop where
  sublist : kept.Sublist pairs
  /-- A pair is kept exactly if neither of its actors was busy or is in a pair kept before it. -/
  chosen : ∀ before pair behind, pairs = before ++ pair :: behind →
    (pair ∈ kept ↔ ∀ id, pair.involves id = true →
      ¬ id ∈ busy ∧ ∀ earlier ∈ kept, earlier ∈ before → ¬ earlier.involves id = true)
  apart : kept.Pairwise ActorPair.Apart
  busied : ∀ id, id ∈ later ↔ id ∈ busy ∨ ∃ pair ∈ kept, pair.involves id = true
  /-- No pair of free actors is left. -/
  maximal : ∀ pair ∈ pairs, ∃ id, pair.involves id = true ∧ id ∈ later

/-- The choice among some pairs goes on from what the choice among those before has made busy. -/
theorem selectSwaps_append (busy : IdSet) (pairs more : List ActorPair) :
    selectSwaps busy (pairs ++ more) =
      ((selectSwaps busy pairs).1 ++ (selectSwaps (selectSwaps busy pairs).2 more).1,
        (selectSwaps (selectSwaps busy pairs).2 more).2) := by
  induction pairs generalizing busy with
  | nil => rfl
  | cons pair rest ih =>
    rw [List.cons_append]
    by_cases taken : pair.first ∈ busy ∨ pair.second ∈ busy
    · rw [selectSwaps_of_busy taken, selectSwaps_of_busy taken]
      exact ih busy
    · rw [selectSwaps_of_free taken, selectSwaps_of_free taken, ih]
      rfl

/-- Whether a pair is chosen first is decided by who is busy. -/
theorem mem_selectSwaps_cons {busy : IdSet} {pair : ActorPair} {rest : List ActorPair} :
    pair ∈ (selectSwaps busy (pair :: rest)).1 ↔ ∀ id, pair.involves id = true → ¬ id ∈ busy := by
  constructor
  · intro selected id involved
    exact free_of_mem_selectSwaps selected involved
  · intro free
    have notTaken : ¬ (pair.first ∈ busy ∨ pair.second ∈ busy) := by
      rintro (first | second)
      · exact free pair.first (ActorPair.involves_iff.mpr (.inl rfl)) first
      · exact free pair.second (ActorPair.involves_iff.mpr (.inr rfl)) second
    rw [selectSwaps_of_free notTaken]
    exact List.mem_cons_self

/-- Every pair has a busy actor when the choice is made. -/
theorem exists_busy_selectSwaps {busy : IdSet} {pair : ActorPair} {pairs : List ActorPair}
    (member : pair ∈ pairs) : ∃ id, pair.involves id = true ∧ id ∈ (selectSwaps busy pairs).2 := by
  induction pairs generalizing busy with
  | nil => cases member
  | cons head rest ih =>
    by_cases taken : head.first ∈ busy ∨ head.second ∈ busy
    · rcases List.mem_cons.mp member with rfl | member
      · rcases taken with first | second
        · exact ⟨pair.first, ActorPair.involves_iff.mpr (.inl rfl),
            (mem_selectSwaps_busy busy _).mpr (.inl first)⟩
        · exact ⟨pair.second, ActorPair.involves_iff.mpr (.inr rfl),
            (mem_selectSwaps_busy busy _).mpr (.inl second)⟩
      · rw [selectSwaps_of_busy taken]
        exact ih member
    · rw [selectSwaps_of_free taken]
      rcases List.mem_cons.mp member with rfl | member
      · refine ⟨pair.first, ActorPair.involves_iff.mpr (.inl rfl), (mem_selectSwaps_busy _ _).mpr (.inl ?_)⟩
        exact mem_busied.mpr (.inl (ActorPair.involves_iff.mpr (.inl rfl)))
      · exact ih member

/-- Among pairs that are all different the choice is greedy. -/
theorem greedyMatching_selectSwaps (busy : IdSet) {pairs : List ActorPair} (distinct : pairs.Nodup) :
    GreedyMatching busy pairs (selectSwaps busy pairs).1 (selectSwaps busy pairs).2 where
  sublist := selectSwaps_sublist busy pairs
  apart := pairwise_selectSwaps busy pairs
  busied id := mem_selectSwaps_busy busy pairs
  maximal pair member := exists_busy_selectSwaps member
  chosen := by
    rintro before pair behind rfl
    have unlike := List.nodup_append.mp distinct
    have unseenEarly : ¬ pair ∈ before := fun early =>
      unlike.2.2 pair early pair List.mem_cons_self rfl
    -- Of the pairs that are kept, those from before are the ones that were chosen among them.
    have keptBefore (earlier : ActorPair) :
        earlier ∈ (selectSwaps busy (before ++ pair :: behind)).1 ∧ earlier ∈ before ↔
          earlier ∈ (selectSwaps busy before).1 := by
      rw [selectSwaps_append, List.mem_append]
      constructor
      · rintro ⟨early | late, among⟩
        · exact early
        · exact absurd rfl (unlike.2.2 earlier among earlier ((selectSwaps_sublist _ _).subset late))
      · exact fun early => ⟨.inl early, (selectSwaps_sublist _ _).subset early⟩
    have now : pair ∈ (selectSwaps busy (before ++ pair :: behind)).1 ↔
        pair ∈ (selectSwaps (selectSwaps busy before).2 (pair :: behind)).1 := by
      rw [selectSwaps_append, List.mem_append]
      exact or_iff_right fun early => unseenEarly ((selectSwaps_sublist _ _).subset early)
    rw [now, mem_selectSwaps_cons]
    refine forall₂_congr fun id _ => ?_
    rw [mem_selectSwaps_busy, not_or]
    refine and_congr_right fun _ => ?_
    constructor
    · intro free earlier kept among involved
      exact free ⟨earlier, (keptBefore earlier).mp ⟨kept, among⟩, involved⟩
    · rintro free ⟨earlier, kept, involved⟩
      obtain ⟨kept, among⟩ := (keptBefore earlier).mpr kept
      exact free earlier kept among involved

/-- Nothing is chosen among pairs that all have a busy actor. -/
theorem selectSwaps_of_all_busy {busy : IdSet} {pairs : List ActorPair}
    (taken : ∀ pair ∈ pairs, ∃ id, pair.involves id = true ∧ id ∈ busy) :
    selectSwaps busy pairs = ([], busy) := by
  induction pairs with
  | nil => rfl
  | cons pair rest ih =>
    rw [List.forall_mem_cons] at taken
    obtain ⟨⟨id, involved, member⟩, others⟩ := taken
    rw [selectSwaps_of_busy]
    · exact ih others
    · rcases ActorPair.involves_iff.mp involved with rfl | rfl
      · exact .inl member
      · exact .inr member

/-! ### The trades -/

/-- The actors of some pairs have traded: place by place each of them starts over with what was the
program of the other, without a bubble, and all other actors are as before. Of the timers only those of
the bubbles that are gone are disarmed. -/
structure Traded (swaps : List ActorPair) (actors later : List Actor) (timers queue : TimerQueue) :
    Prop where
  standing : later.map Actor.standing = actors.map Actor.standing
  exchanged : ∀ pair ∈ swaps, ∃ (i j : Nat) (first second : Actor), i ≠ j ∧
    actors[i]? = some first ∧ first.id = pair.first ∧
    actors[j]? = some second ∧ second.id = pair.second ∧
    later[i]? = some { first with program := second.program, cursor := .start, bubble := none } ∧
    later[j]? = some { second with program := first.program, cursor := .start, bubble := none }
  kept : ∀ (i : Nat) (actor : Actor), actors[i]? = some actor →
    (∀ pair ∈ swaps, ¬ pair.involves actor.id = true) → later[i]? = some actor
  issued : queue.issued = timers.issued
  disarmed : ∀ timer, timer ∈ queue.pending ↔ timer ∈ timers.pending ∧
    ∀ actor ∈ actors, ∀ pair ∈ swaps, pair.involves actor.id = true →
      actor.bubbleTimer ≠ some timer.handle

variable {actors between later : List Actor} {timers left queue : TimerQueue} {swaps more : List ActorPair}

theorem Traded.nothing (actors : List Actor) (timers : TimerQueue) : Traded [] actors actors timers timers :=
  ⟨rfl, by simp, fun _ _ here _ => here, rfl, by simp⟩

/-- Lists with the same image have items of the same image at each place. -/
theorem exists_same_place {α β : Type} {image : α → β} {items others : List α} {i : Nat} {item : α}
    (same : others.map image = items.map image) (here : items[i]? = some item) :
    ∃ other, others[i]? = some other ∧ image other = image item := by
  have mapped := congrArg (·[i]?) same
  simp only [List.getElem?_map, here, Option.map_some] at mapped
  exact Option.map_eq_some_iff.mp mapped

/-- An actor of a list without twins is the one at a place if it goes by the same identifier. -/
theorem eq_of_getElem?_of_distinct (distinct : (actors.map (·.id)).Nodup) {i : Nat} {actor other : Actor}
    (here : actors[i]? = some actor) (among : other ∈ actors) (same : other.id = actor.id) : other = actor :=
  List.inj_on_of_nodup_map distinct among (List.mem_of_getElem? here) same

/-- One trade. -/
theorem traded_of_tradeIn? {pair : ActorPair} (distinct : (actors.map (·.id)).Nodup)
    (trade : tradeIn? actors timers pair.first pair.second = some (later, queue)) :
    Traded [pair] actors later timers queue := by
  obtain ⟨i, j, first, second, apart, findsFirst, here, findsSecond, there, rfl, rfl⟩ :=
    Stage.tradeIn?_eq_some trade
  have firstId : first.id = pair.first := by
    simpa using List.find?_some (Stage.find?_of_findIdx? findsFirst here)
  have secondId : second.id = pair.second := by
    simpa using List.find?_some (Stage.find?_of_findIdx? findsSecond there)
  have insideI := (List.getElem?_eq_some_iff.mp here).1
  have insideJ := (List.getElem?_eq_some_iff.mp there).1
  constructor
  case standing => exact Stage.map_set_set_same apart here there rfl rfl
  case exchanged =>
    intro other member
    rw [List.mem_singleton.mp member]
    refine ⟨i, j, first, second, apart, here, firstId, there, secondId, ?_, ?_⟩
    · simp [insideI, Ne.symm apart, Actor.rewound]
    · simp [insideJ, Actor.rewound]
  case kept =>
    intro k actor stands free
    have outside := free pair (List.mem_singleton_self pair)
    rw [ActorPair.involves_iff, not_or, ← firstId, ← secondId] at outside
    have notI : i ≠ k := by
      rintro rfl
      rw [here, Option.some.injEq] at stands
      exact outside.1 (congrArg Actor.id stands)
    have notJ : j ≠ k := by
      rintro rfl
      rw [there, Option.some.injEq] at stands
      exact outside.2 (congrArg Actor.id stands)
    rw [List.getElem?_set_ne notJ, List.getElem?_set_ne notI, stands]
  case issued => simp
  case disarmed =>
    intro timer
    rw [TimerQueue.mem_cancel?, TimerQueue.mem_cancel?, and_assoc]
    refine and_congr_right fun _ => ?_
    constructor
    · rintro ⟨notFirst, notSecond⟩ actor among other member involved
      rw [List.mem_singleton.mp member] at involved
      rcases ActorPair.involves_iff.mp involved with same | same
      · rwa [eq_of_getElem?_of_distinct distinct here among (same.symm.trans firstId.symm)]
      · rwa [eq_of_getElem?_of_distinct distinct there among (same.symm.trans secondId.symm)]
    · intro spared
      have member := List.mem_singleton_self pair
      have firstInvolved := ActorPair.involves_iff.mpr (.inl firstId.symm)
      have secondInvolved := ActorPair.involves_iff.mpr (.inr secondId.symm)
      exact ⟨spared first (List.mem_of_getElem? here) pair member firstInvolved,
        spared second (List.mem_of_getElem? there) pair member secondInvolved⟩

theorem Traded.cast (trade : Traded swaps actors later timers queue) :
    later.map (·.id) = actors.map (·.id) := by
  have mapped := congrArg (List.map Prod.fst) trade.standing
  rwa [List.map_map, List.map_map] at mapped

/-- Who takes part in a later trade stood there from the start. -/
theorem Traded.stood (early : Traded swaps actors between timers left)
    (apart : ∀ pair ∈ swaps, ∀ other ∈ more, pair.Apart other) {i : Nat} {actor : Actor} {pair : ActorPair}
    (member : pair ∈ more) (here : between[i]? = some actor) (involved : pair.involves actor.id = true) :
    actors[i]? = some actor := by
  obtain ⟨before, stands, same⟩ := exists_same_place early.cast.symm here
  have free : ∀ other ∈ swaps, ¬ other.involves before.id = true := by
    intro other among takesPart
    rw [same] at takesPart
    exact apart other among pair member _ takesPart involved
  have kept := early.kept i before stands free
  rw [here] at kept
  rw [stands, ← Option.some.inj kept]

/-- Trades between pairs without a common actor add up. -/
theorem Traded.append (early : Traded swaps actors between timers left)
    (late : Traded more between later left queue)
    (apart : ∀ pair ∈ swaps, ∀ other ∈ more, pair.Apart other) :
    Traded (swaps ++ more) actors later timers queue := by
  constructor
  case standing => exact late.standing.trans early.standing
  case exchanged =>
    intro pair member
    rcases List.mem_append.mp member with member | member
    · obtain ⟨i, j, first, second, different, here, firstId, there, secondId, given, taken⟩ :=
        early.exchanged pair member
      refine ⟨i, j, first, second, different, here, firstId, there, secondId, ?_, ?_⟩
      · refine late.kept i _ given fun other among => ?_
        exact apart pair member other among _ (ActorPair.involves_iff.mpr (.inl firstId.symm))
      · refine late.kept j _ taken fun other among => ?_
        exact apart pair member other among _ (ActorPair.involves_iff.mpr (.inr secondId.symm))
    · obtain ⟨i, j, first, second, different, here, firstId, there, secondId, given, taken⟩ :=
        late.exchanged pair member
      have involvedFirst := ActorPair.involves_iff.mpr (.inl firstId.symm)
      have involvedSecond := ActorPair.involves_iff.mpr (.inr secondId.symm)
      exact ⟨i, j, first, second, different, early.stood apart member here involvedFirst, firstId,
        early.stood apart member there involvedSecond, secondId, given, taken⟩
  case kept =>
    intro i actor here free
    refine late.kept i actor (early.kept i actor here fun pair member => ?_) fun pair member => ?_
    · exact free pair (List.mem_append_left _ member)
    · exact free pair (List.mem_append_right _ member)
  case issued => exact late.issued.trans early.issued
  case disarmed =>
    intro timer
    rw [late.disarmed, early.disarmed, and_assoc]
    refine and_congr_right fun _ => ?_
    constructor
    · rintro ⟨sparedEarly, sparedLate⟩ actor among pair member involved
      rcases List.mem_append.mp member with member | member
      · exact sparedEarly actor among pair member involved
      · obtain ⟨i, here⟩ := List.mem_iff_getElem?.mp among
        obtain ⟨moved, stands, same⟩ := exists_same_place early.cast here
        have still := early.stood apart member stands (same ▸ involved)
        rw [here, Option.some.injEq] at still
        subst still
        exact sparedLate _ (List.mem_of_getElem? stands) pair member involved
    · intro spared
      refine ⟨fun actor among pair member => ?_, fun actor among pair member involved => ?_⟩
      · exact spared actor among pair (List.mem_append_left _ member)
      · obtain ⟨i, here⟩ := List.mem_iff_getElem?.mp among
        have still := early.stood apart member here involved
        exact spared actor (List.mem_of_getElem? still) pair (List.mem_append_right _ member) involved

/-- Pairs without a common actor, of different actors of the list, trade one after another. -/
theorem traded_tradeAll (distinct : (actors.map (·.id)).Nodup) (apart : swaps.Pairwise ActorPair.Apart)
    (present : ∀ pair ∈ swaps, pair.Present (actors.map (·.id))) (timers : TimerQueue) :
    Traded swaps actors (tradeAll swaps (actors, timers)).1 timers (tradeAll swaps (actors, timers)).2 := by
  induction swaps generalizing actors timers with
  | nil => exact .nothing actors timers
  | cons pair rest ih =>
    rw [List.pairwise_cons] at apart
    rw [List.forall_mem_cons] at present
    obtain ⟨⟨different, first, second⟩, others⟩ := present
    obtain ⟨atFirst, foundFirst⟩ := Stage.exists_find? first
    obtain ⟨atSecond, foundSecond⟩ := Stage.exists_find? second
    obtain ⟨between, left, trade⟩ := Stage.exists_tradeIn? timers different foundFirst foundSecond
    have now := traded_of_tradeIn? distinct trade
    rw [← now.cast] at distinct others
    have afterwards := ih distinct apart.2 others left
    rw [tradeAll_cons, trade, Option.getD_some]
    refine now.append afterwards fun earlier member other among => ?_
    rw [List.mem_singleton.mp member]
    exact apart.1 other among

/-- Among actors under different identifiers a scan meets each pair that is near once, the smaller
identifier first. Going through these pairs in order, one trades exactly if none of its actors was busy
or is in a pair before it that trades; so no two pairs that trade have an actor in common, exactly their
actors get busy, and no pair of free actors is left over. The trades touch nothing but the programs,
cursors and bubbles of their actors and the timers of these bubbles. To resolve the collisions again is
to change nothing. -/
theorem resolves_greedily (distinct : (actors.map (·.id)).Nodup) (distance : Float) (busy : IdSet)
    (timers : TimerQueue) :
    let pairs := collidingPairs distance actors
    let resolved := resolveCollisions distance actors busy timers
    (∃ places, Scanned distance actors places) ∧ pairs.Nodup ∧
      (∀ pair ∈ pairs, pair.first < pair.second) ∧
      GreedyMatching busy pairs resolved.swaps resolved.busy ∧
      Traded resolved.swaps actors resolved.actors timers resolved.timers ∧
      resolveCollisions distance resolved.actors resolved.busy resolved.timers =
        { resolved with swaps := [] } := by
  intro pairs resolved
  have nodup : pairs.Nodup := nodup_collidingPairs distinct
  have greedy : GreedyMatching busy pairs resolved.swaps resolved.busy :=
    greedyMatching_selectSwaps busy nodup
  have traded : Traded resolved.swaps actors resolved.actors timers resolved.timers :=
    traded_tradeAll distinct greedy.apart
      (fun pair kept => present_of_mem_collidingPairs distinct (greedy.sublist.subset kept)) timers
  refine ⟨exists_scanned distance actors, nodup, fun pair => first_lt_of_mem_collidingPairs distinct,
    greedy, traded, ?_⟩
  have again : selectSwaps resolved.busy (collidingPairs distance resolved.actors) = ([], resolved.busy) := by
    rw [collidingPairs_congr traded.standing]
    exact selectSwaps_of_all_busy greedy.maximal
  rw [resolveCollisions_eq, again]
  rfl

/-- Four actors in a row, each near the next. The outer two pairs trade, and the one between them has to
wait; the bubble of the cat goes, and its timer with it. -/
theorem resolves_greedily_row :
    let cat : Actor :=
      { id := ⟨1, by decide⟩, name := "Cat", x := 0, program := [.turn 10], bubble := some ⟨.speech, "Hi", some 1⟩ }
    let dog : Actor := { id := ⟨2, by decide⟩, name := "Dog", x := 30, program := [.turn 20] }
    let owl : Actor := { id := ⟨3, by decide⟩, name := "Owl", x := 60, program := [.turn 30] }
    let rat : Actor := { id := ⟨4, by decide⟩, name := "Rat", x := 90, program := [.turn 40] }
    let timers := (TimerQueue.empty.arm cat.id .speech ⟨5, by decide⟩).2
    let resolved := resolveCollisions 40 [rat, cat, dog, owl] ∅ timers
    ([rat, cat, dog, owl].map (·.id)).Nodup ∧ resolved.swaps = [.of owl.id rat.id, .of cat.id dog.id] ∧
      Traded resolved.swaps [rat, cat, dog, owl] resolved.actors timers resolved.timers ∧
      resolved.timers.pending = [] ∧
      resolveCollisions 40 resolved.actors resolved.busy resolved.timers = { resolved with swaps := [] } := by
  intro cat dog owl rat timers resolved
  have distinct : ([rat, cat, dog, owl].map (·.id)).Nodup := by decide
  have swaps : resolved.swaps = [.of owl.id rat.id, .of cat.id dog.id] := by decide +kernel
  obtain ⟨-, -, -, -, traded, again⟩ := resolves_greedily distinct 40 ∅ timers
  exact ⟨distinct, swaps, traded, by decide +kernel, again⟩

end SpriteStage
