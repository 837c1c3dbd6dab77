import Mathlib.Algebra.Field.Rat
import Reconciler.Cache
import Reconciler.Proofs.Computation
import Reconciler.Proofs.WorkQueue.Run

/-!
# What a cache remembers

A cache drops an entry that has expired only when it is asked for it, and drops entries by parts of their
keys.  What it answers is nevertheless told by the history of what was stored and dropped: the last value
stored under a key that was not dropped since, unless it is too old.  A load that fails leaves no trace in
this history, so that no later answer depends on it.
-/

namespace Reconciler

namespace Text

theorem cut?_isSome_iff (word cs : List Char) : (cut? word cs).isSome = true ↔ word <:+: cs := by
  induction cs with
  | nil => cases word <;> simp [cut?]
  | cons c rest ih =>
      rw [cut?, List.infix_cons_iff, ← ih, ← List.isPrefixOf_iff_prefix]
      split
      next here => simp [here]
      next elsewhere => simp [elsewhere]

/-- A text contains the words that stand in it in one piece. -/
theorem contains_iff (s word : String) : contains s word = true ↔ word.toList <:+: s.toList :=
  cut?_isSome_iff word.toList s.toList

end Text

namespace Cache

/-! ## Entries -/

section Entries

variable {ν α : Type} (cache : Cache ν α) (key other : String)

theorem held?_filter (keep : String → Bool) :
    held? { cache with entries := cache.entries.filter fun entry => keep entry.1 } key =
      if keep key then cache.held? key else none := by
  unfold held?
  induction cache.entries with
  | nil => simp
  | cons entry rest ih =>
      rw [List.filter_cons, List.find?_cons]
      by_cases same : entry.1 = key
      · subst same
        cases kept : keep entry.1 with
        | true => simp
        | false => simpa [kept] using ih
      · rw [beq_eq_false_iff_ne.mpr same, ← ih]
        cases keep entry.1 <;> simp [same]

theorem held?_erase :
    (cache.erase key).held? other = if other = key then none else cache.held? other := by
  refine (cache.held?_filter other (· != key)).trans ?_
  by_cases same : other = key <;> simp [same]

theorem held?_invalidate (part : String) :
    (cache.invalidate part).held? key = if Text.contains key part then none else cache.held? key := by
  refine (cache.held?_filter key (!Text.contains · part)).trans ?_
  cases Text.contains key part <;> rfl

theorem held?_set (now : α) (value : Option ν) :
    (cache.set now key value).held? other =
      if other = key then some ⟨value, now⟩ else cache.held? other := by
  unfold set held?
  dsimp only
  induction cache.entries with
  | nil => by_cases same : other = key <;> simp [write, same, Ne.symm]
  | cons entry rest ih =>
      obtain ⟨own, held⟩ := entry
      rw [write]
      by_cases here : own = key
      · subst here
        by_cases same : other = own <;> simp [same, Ne.symm]
      · by_cases same : own = other
        · subst same
          simp [here]
        · simpa [here, same] using ih

end Entries

/-! ## Runs -/

/-- A cache in use. -/
structure Usage (ν : Type) where
  /-- The cache. -/
  cache : Cache ν Rat
  /-- What the clock shows. -/
  now : Rat
  /-- The number of times that a value was to be loaded. -/
  loads : Nat

/-- An operation on a cache in use. -/
inductive Operation (ε ν : Type) where
  /-- The value under a key is asked for. -/
  | get (key : String)
  /-- A value is stored under a key. -/
  | set (key : String) (value : ν)
  /-- The value under a key is asked for; to load one takes some time, and has an outcome. -/
  | getOrLoad (key : String) (outcome : Except ε ν) (takes : ℚ≥0)
  /-- All entries are dropped. -/
  | clear
  /-- The entries whose key contains a text are dropped. -/
  | invalidate (part : String)
  /-- The clock advances. -/
  | advance (seconds : ℚ≥0)

namespace Usage

variable {ε ν : Type}

/-- A cache without entries, at a time. -/
def start (ttl now : Rat) : Usage ν :=
  ⟨.empty ttl, now, 0⟩

/-- The answer about a key. -/
def read (usage : Usage ν) (key : String) : Option ν :=
  (usage.cache.get usage.now key).1

/-- What an answer about a key leaves behind. -/
def afterRead (usage : Usage ν) (key : String) : Usage ν :=
  { usage with cache := (usage.cache.get usage.now key).2 }

/-- What storing a value leaves behind. -/
def store (usage : Usage ν) (key : String) (value : ν) : Usage ν :=
  { usage with cache := usage.cache.set usage.now key (some value) }

/-- The time that the clock shows. -/
def clock : EStateM ε (Usage ν) Rat := do
  pure (← MonadState.get).now

/-- Loads a value, which takes some time. -/
def loader (outcome : Except ε ν) (takes : ℚ≥0) : EStateM ε (Usage ν) (Option ν) := do
  modify fun usage => { usage with now := usage.now + takes, loads := usage.loads + 1 }
  pure (some (← ofExcept outcome))

/-- The value under a key, which is loaded and stored when there is none. -/
def getOrLoad (key : String) (outcome : Except ε ν) (takes : ℚ≥0) : EStateM ε (Usage ν) (Option ν) :=
  getOrLoadBy ⟨Usage.cache, fun cache usage => { usage with cache }⟩ clock key (loader outcome takes)

/-- What an operation leaves behind. -/
def apply (usage : Usage ν) : Operation ε ν → Usage ν
  | .get key => usage.afterRead key
  | .set key value => usage.store key value
  | .getOrLoad key outcome takes => final (getOrLoad key outcome takes) usage
  | .clear => { usage with cache := usage.cache.clear }
  | .invalidate part => { usage with cache := usage.cache.invalidate part }
  | .advance seconds => { usage with now := usage.now + seconds }

/-- What the operations of a run leave behind. -/
def run (usage : Usage ν) (operations : List (Operation ε ν)) : Usage ν :=
  operations.foldl apply usage

/-- What an attempt to load a value leaves behind, without the value. -/
def afterLoad (usage : Usage ν) (key : String) (takes : ℚ≥0) : Usage ν :=
  { usage.afterRead key with now := usage.now + takes, loads := usage.loads + 1 }

section Loading

variable (usage : Usage ν) (key : String) (outcome : Except ε ν) (takes : ℚ≥0)

theorem answer_getOrLoad :
    answer (getOrLoad key outcome takes) usage =
      match usage.read key with
      | some value => .ok (some value)
      | none => outcome.map some := by
  unfold read
  rcases asked : usage.cache.get usage.now key with ⟨_ | value, left⟩
  · cases outcome <;>
      simp [-bind_pure_comp, getOrLoad, getOrLoadBy, clock, loader, answer_bind, asked, Except.map]
  · simp [-bind_pure_comp, getOrLoad, getOrLoadBy, clock, answer_bind, asked]

theorem final_getOrLoad :
    final (getOrLoad key outcome takes) usage =
      match usage.read key, outcome with
      | some _, _ => usage.afterRead key
      | none, .ok value => (usage.afterLoad key takes).store key value
      | none, .error _ => usage.afterLoad key takes := by
  unfold read afterLoad afterRead
  rcases asked : usage.cache.get usage.now key with ⟨_ | value, left⟩
  · cases outcome <;>
      simp [-bind_pure_comp, getOrLoad, getOrLoadBy, clock, loader, store, final_bind, asked]
  · simp [-bind_pure_comp, getOrLoad, getOrLoadBy, clock, final_bind, asked]

theorem loads_getOrLoad :
    (usage.apply (.getOrLoad key outcome takes)).loads =
      if (usage.read key).isNone then usage.loads + 1 else usage.loads := by
  rw [apply, final_getOrLoad]
  cases usage.read key with
  | some value => rfl
  | none => cases outcome <;> rfl

end Loading

end Usage

/-! ## Histories -/

/-- What happened to the values of a cache. -/
inductive Change (ν : Type) where
  /-- A value was stored under a key. -/
  | store (key : String) (value : ν) (time : Rat)
  /-- All values were dropped. -/
  | clear
  /-- The values whose key contains a text were dropped. -/
  | invalidate (part : String)

/-- The change ends what was stored under a key before. -/
def Change.Ends {ν : Type} (key : String) : Change ν → Prop
  | .store other _ _ => other = key
  | .clear => True
  | .invalidate part => part.toList <:+: key.toList

/-- The last value that was stored under a key and not dropped since, and the time at which it was
stored. -/
def Remembers {ν : Type} (past : List (Change ν)) (key : String) (value : ν) (time : Rat) : Prop :=
  ∃ before after, past = before ++ .store key value time :: after ∧ ∀ change ∈ after, ¬change.Ends key

section Remembering

variable {ν : Type} {past : List (Change ν)} {change : Change ν} {key : String} {value : ν} {time : Rat}

@[simp]
theorem not_remembers_nil : ¬Remembers [] key value time := by
  rintro ⟨before, after, split, -⟩
  simp at split

theorem remembers_concat :
    Remembers (past ++ [change]) key value time ↔
      change = .store key value time ∨ Remembers past key value time ∧ ¬change.Ends key := by
  constructor
  · rintro ⟨before, after, split, lasting⟩
    rcases concat_eq_split split with ⟨-, same, -⟩ | ⟨middle, rfl, rfl⟩
    · exact .inl same
    · exact .inr ⟨⟨before, middle, rfl, fun later mem => lasting later (by simp [mem])⟩,
        lasting change (by simp)⟩
  · rintro (rfl | ⟨⟨before, after, rfl, lasting⟩, kept⟩)
    · exact ⟨past, [], rfl, by simp⟩
    · refine ⟨before, after ++ [change], by simp, fun later mem => ?_⟩
      rcases List.mem_append.mp mem with mem | mem
      · exact lasting later mem
      · rw [List.mem_singleton.mp mem]
        exact kept

end Remembering

namespace Usage

variable {ε ν : Type}

/-- What comes of an operation; a load stores a value when it was made and had one. -/
def changes (usage : Usage ν) (operation : Operation ε ν) : List (Change ν) :=
  match operation with
  | .set key value => [.store key value usage.now]
  | .getOrLoad key (.ok value) _ =>
    if usage.loads < (usage.apply operation).loads then
      [.store key value (usage.apply operation).now]
    else []
  | .clear => [.clear]
  | .invalidate part => [.invalidate part]
  | .get _ | .getOrLoad _ (.error _) _ | .advance _ => []

/-- What came of the operations of a run, in order. -/
def history (usage : Usage ν) : List (Operation ε ν) → List (Change ν)
  | [] => []
  | operation :: operations => usage.changes operation ++ history (usage.apply operation) operations

theorem run_concat (usage : Usage ν) (operations : List (Operation ε ν)) (operation : Operation ε ν) :
    usage.run (operations ++ [operation]) = (usage.run operations).apply operation := by
  simp [run]

theorem history_concat (usage : Usage ν) (operations : List (Operation ε ν))
    (operation : Operation ε ν) :
    usage.history (operations ++ [operation]) =
      usage.history operations ++ (usage.run operations).changes operation := by
  induction operations generalizing usage with
  | nil => simp [history, run]
  | cons first operations ih =>
      simp only [List.cons_append, history, ih, List.append_assoc]
      rfl

/-- The entries of a cache are what its history tells. -/
structure Follows (ttl : Rat) (past : List (Change ν)) (usage : Usage ν) : Prop where
  /-- The time to live of the cache. -/
  ttl_eq : usage.cache.ttl = ttl
  /-- Each entry holds what the history remembers. -/
  remembered : ∀ key entry, usage.cache.held? key = some entry →
    ∃ value, entry.value = some value ∧ Remembers past key value entry.storedAt
  /-- What the history remembers has an entry, unless it is too old. -/
  kept : ∀ key value time, Remembers past key value time → usage.now - time ≤ ttl →
    usage.cache.held? key = some ⟨some value, time⟩

namespace Follows

variable {ttl : Rat} {past : List (Change ν)} {usage : Usage ν}

theorem start (ttl now : Rat) : Follows ttl [] (Usage.start ttl now : Usage ν) where
  ttl_eq := rfl
  remembered key entry found := by simp [Usage.start, Cache.empty, held?] at found
  kept key value time remembers := by simp at remembers

theorem isExpired_iff (follows : Follows ttl past usage) (entry : CacheEntry ν Rat) :
    usage.cache.isExpired usage.now entry = true ↔ ¬usage.now - entry.storedAt ≤ ttl := by
  rw [← follows.ttl_eq, not_le]
  exact decide_eq_true_iff

/-- An answer is what the history remembers, unless it is too old. -/
theorem read_iff (follows : Follows ttl past usage) {key : String} {value : ν} :
    usage.read key = some value ↔ ∃ time, Remembers past key value time ∧ usage.now - time ≤ ttl := by
  unfold read get
  constructor
  · intro answered
    cases found : usage.cache.held? key with
    | none => simp [found] at answered
    | some entry =>
        obtain ⟨own, held, remembers⟩ := follows.remembered key entry found
        simp only [found, follows.isExpired_iff] at answered
        split at answered
        · contradiction
        next fresh =>
          obtain rfl : own = value := Option.some.inj (held.symm.trans answered)
          exact ⟨entry.storedAt, remembers, not_not.mp fresh⟩
  · rintro ⟨time, remembers, fresh⟩
    have found := follows.kept key value time remembers fresh
    simp [found, follows.isExpired_iff, fresh]

theorem afterRead (follows : Follows ttl past usage) (key : String) :
    Follows ttl past (usage.afterRead key) := by
  unfold Usage.afterRead get
  cases found : usage.cache.held? key with
  | none => exact follows
  | some entry =>
      dsimp only
      split
      next expired =>
        -- Only an entry that is too old is dropped, which the history needs no more.
        refine ⟨follows.ttl_eq, fun other held stands => ?_, fun other value time remembers fresh => ?_⟩
        · rw [held?_erase] at stands
          split at stands
          · contradiction
          · exact follows.remembered other held stands
        · rw [held?_erase, follows.kept other value time remembers fresh]
          split
          next same =>
            subst same
            rw [follows.kept other value time remembers fresh] at found
            obtain rfl := Option.some.inj found
            exact absurd fresh ((follows.isExpired_iff _).mp expired)
          next => rfl
      next => exact follows

theorem later (follows : Follows ttl past usage) {now : Rat} (passed : usage.now ≤ now) (loads : Nat) :
    Follows ttl past { usage with now, loads } where
  ttl_eq := follows.ttl_eq
  remembered := follows.remembered
  kept key value time remembers fresh :=
    follows.kept key value time remembers ((sub_le_sub_right passed time).trans fresh)

theorem afterLoad (follows : Follows ttl past usage) (key : String) (takes : ℚ≥0) :
    Follows ttl past (usage.afterLoad key takes) :=
  (follows.afterRead key).later (le_add_of_nonneg_right takes.coe_nonneg) _

theorem store (follows : Follows ttl past usage) (key : String) (value : ν) :
    Follows ttl (past ++ [.store key value usage.now]) (usage.store key value) := by
  unfold Usage.store
  refine ⟨follows.ttl_eq, fun other entry found => ?_, fun other held time remembers fresh => ?_⟩
  · rw [held?_set] at found
    split at found
    next same =>
      obtain rfl := Option.some.inj found
      exact ⟨value, rfl, remembers_concat.mpr (.inl (same ▸ rfl))⟩
    next apart =>
      obtain ⟨own, same, remembers⟩ := follows.remembered other entry found
      exact ⟨own, same, remembers_concat.mpr (.inr ⟨remembers, Ne.symm apart⟩)⟩
  · rw [held?_set]
    rcases remembers_concat.mp remembers with same | ⟨remembers, apart⟩
    · obtain ⟨rfl, rfl, rfl⟩ := Change.store.inj same
      exact if_pos rfl
    · rw [if_neg (Ne.symm apart)]
      exact follows.kept other held time remembers fresh

/-- A change that drops exactly the entries under some keys. -/
theorem dropped (follows : Follows ttl past usage) {change : Change ν} {cache : Cache ν Rat}
    (ttl_eq : cache.ttl = usage.cache.ttl) (not_store : ∀ key value time, change ≠ .store key value time)
    (ended : ∀ key, change.Ends key → cache.held? key = none)
    (spared : ∀ key, ¬change.Ends key → cache.held? key = usage.cache.held? key) :
    Follows ttl (past ++ [change]) { usage with cache } := by
  refine ⟨ttl_eq.trans follows.ttl_eq, fun key entry found => ?_, fun key value time remembers fresh => ?_⟩
  · have lasting : ¬change.Ends key := fun ends => by
      rw [ended key ends] at found
      contradiction
    rw [spared key lasting] at found
    obtain ⟨own, same, remembers⟩ := follows.remembered key entry found
    exact ⟨own, same, remembers_concat.mpr (.inr ⟨remembers, lasting⟩)⟩
  · obtain ⟨remembers, lasting⟩ :=
      (remembers_concat.mp remembers).resolve_left (not_store key value time)
    rw [spared key lasting]
    exact follows.kept key value time remembers fresh

theorem clear (follows : Follows ttl past usage) :
    Follows ttl (past ++ [.clear]) { usage with cache := usage.cache.clear } :=
  follows.dropped rfl (by simp) (fun _ _ => rfl) fun _ lasting => absurd trivial lasting

theorem invalidate (follows : Follows ttl past usage) (part : String) :
    Follows ttl (past ++ [.invalidate part]) { usage with cache := usage.cache.invalidate part } := by
  refine follows.dropped rfl (by simp) (fun key ends => ?_) fun key lasting => ?_
  · rw [held?_invalidate, if_pos ((Text.contains_iff key part).mpr ends)]
  · rw [held?_invalidate, if_neg (mt (Text.contains_iff key part).mp lasting)]

end Follows

section Loading

variable (usage : Usage ν) (key : String)

theorem changes_getOrLoad_ok (value : ν) (takes : ℚ≥0) :
    usage.changes (.getOrLoad key (.ok value : Except ε ν) takes) =
      match usage.read key with
      | some _ => []
      | none => [.store key value (usage.now + takes)] := by
  rw [changes, loads_getOrLoad, apply, final_getOrLoad]
  cases usage.read key <;> simp [Usage.store, afterLoad]

end Loading

/-- An operation keeps a cache in step with its history. -/
theorem Follows.apply {ttl : Rat} {past : List (Change ν)} {usage : Usage ν}
    (follows : Follows ttl past usage) (operation : Operation ε ν) :
    Follows ttl (past ++ usage.changes operation) (usage.apply operation) := by
  cases operation with
  | get key => simpa [changes, Usage.apply] using follows.afterRead key
  | set key value => exact follows.store key value
  | getOrLoad key outcome takes =>
      rw [Usage.apply, final_getOrLoad]
      cases outcome with
      | ok value =>
          rw [changes_getOrLoad_ok]
          cases usage.read key with
          | some found => simpa using follows.afterRead key
          | none => exact (follows.afterLoad key takes).store key value
      | error error =>
          rw [changes, List.append_nil]
          cases usage.read key with
          | some found => exact follows.afterRead key
          | none => exact follows.afterLoad key takes
  | clear => exact follows.clear
  | invalidate part => exact follows.invalidate part
  | advance seconds =>
      simpa [changes, Usage.apply] using
        follows.later (le_add_of_nonneg_right seconds.coe_nonneg) usage.loads

theorem Follows.run (ttl now : Rat) (operations : List (Operation ε ν)) :
    Follows ttl ((Usage.start ttl now).history operations)
      ((Usage.start ttl now).run operations : Usage ν) := by
  induction operations using List.reverseRecOn with
  | nil => exact .start ttl now
  | append_singleton operations operation ih =>
      rw [run_concat, history_concat]
      exact ih.apply operation

/-! ## Equal histories -/

section Twins

variable {ttl : Rat} {past : List (Change ν)} {a b : Usage ν}

theorem read_eq_of_follows (a_follows : Follows ttl past a) (b_follows : Follows ttl past b)
    (now_eq : a.now = b.now) (key : String) : a.read key = b.read key := by
  ext value
  rw [a_follows.read_iff, b_follows.read_iff, now_eq]

/-- The clock after an operation is told by the answers and the clock before it. -/
theorem now_apply_eq (operation : Operation ε ν) (now_eq : a.now = b.now)
    (read_eq : ∀ key, a.read key = b.read key) : (a.apply operation).now = (b.apply operation).now := by
  cases operation with
  | getOrLoad key outcome takes =>
      rw [apply, apply, final_getOrLoad, final_getOrLoad, read_eq]
      cases b.read key with
      | some value => exact now_eq
      | none => cases outcome <;> exact congrArg (· + (takes : Rat)) now_eq
  | advance seconds => exact congrArg (· + (seconds : Rat)) now_eq
  | get _ | set _ _ | clear | invalidate _ => exact now_eq

theorem changes_eq (operation : Operation ε ν) (now_eq : a.now = b.now)
    (read_eq : ∀ key, a.read key = b.read key) : a.changes operation = b.changes operation := by
  cases operation with
  | set key value => simp [changes, now_eq]
  | getOrLoad key outcome takes =>
      cases outcome with
      | ok value => rw [changes_getOrLoad_ok, changes_getOrLoad_ok, read_eq, now_eq]
      | error error => rfl
  | get _ | clear | invalidate _ | advance _ => rfl

/-- Caches with the same history and the same clock answer alike from then on. -/
theorem read_run_eq_of_follows (a_follows : Follows ttl past a) (b_follows : Follows ttl past b)
    (now_eq : a.now = b.now) (operations : List (Operation ε ν)) (key : String) :
    (a.run operations).read key = (b.run operations).read key := by
  induction operations generalizing past a b with
  | nil => exact read_eq_of_follows a_follows b_follows now_eq key
  | cons operation operations ih =>
      have read_eq := read_eq_of_follows a_follows b_follows now_eq
      refine ih (a_follows.apply operation) ?_ (now_apply_eq operation now_eq read_eq)
      rw [changes_eq operation now_eq read_eq]
      exact b_follows.apply operation

end Twins

/-- After any run, the answer about a key is the last value that was stored under it and not dropped
since, at a time that is at most the time to live ago.  A value is to be loaded exactly where there is no
such answer.  The failure of a load is passed on, and but for the time that it took no later answer is
another one. -/
theorem read_of_history (ttl now : Rat) (operations : List (Operation ε ν)) :
    let usage : Usage ν := (start ttl now).run operations
    let past := (start ttl now).history operations
    (∀ key value, usage.read key = some value ↔
        ∃ time, Remembers past key value time ∧ usage.now - time ≤ ttl) ∧
      (∀ key (outcome : Except ε ν) takes,
        ((usage.apply (.getOrLoad key outcome takes)).loads = usage.loads + 1 ↔
            usage.read key = none) ∧
          answer (getOrLoad key outcome takes) usage =
            match usage.read key with
            | some value => .ok (some value)
            | none => outcome.map some) ∧
      ∀ key (error : ε) takes, usage.read key = none →
        ∀ (later : List (Operation ε ν)) other,
          ((usage.apply (.getOrLoad key (.error error : Except ε ν) takes)).run later).read other =
            ((usage.apply (.advance takes : Operation ε ν)).run later).read other := by
  intro usage past
  have follows : Follows ttl past usage := .run ttl now operations
  refine ⟨fun key value => follows.read_iff, fun key outcome takes => ⟨?_, ?_⟩,
    fun key error takes absent later other => ?_⟩
  · rw [loads_getOrLoad]
    cases usage.read key <;> simp
  · exact usage.answer_getOrLoad key outcome takes
  · -- Nothing came of the load, so that both caches have the same history.
    have failed := follows.apply (.getOrLoad key (.error error : Except ε ν) takes)
    have waited := follows.apply (.advance takes : Operation ε ν)
    refine read_run_eq_of_follows failed waited ?_ later other
    rw [apply, final_getOrLoad, absent]
    rfl

/-- Uses of a cache with a time to live of half a minute. -/
def renewals : List (Operation String Nat) :=
  [.getOrLoad "first.yaml" (.ok 1) 1, .set "second.yaml" 2, .advance 30, .invalidate "second"]

theorem apply_firstRenewal :
    (start 30 0 : Usage Nat).apply (.getOrLoad "first.yaml" (.ok 1 : Except String Nat) 1) =
      ⟨⟨30, [("first.yaml", ⟨some 1, 1⟩)]⟩, 1, 1⟩ := by
  rw [apply, final_getOrLoad, show (start 30 0 : Usage Nat).read "first.yaml" = none from rfl]
  simp [start, afterLoad, afterRead, Usage.store, Cache.set, write, get, held?, empty]

theorem history_renewals :
    (start 30 0 : Usage Nat).history renewals =
      [.store "first.yaml" 1 1, .store "second.yaml" 2 1, .invalidate "second"] := by
  simp only [renewals, history, changes, apply_firstRenewal]
  rfl

theorem now_renewals : ((start 30 0 : Usage Nat).run renewals).now = 1 + 30 := by
  simp only [renewals, run, List.foldl_cons, List.foldl_nil, apply_firstRenewal]
  rfl

/-- A value is answered up to the end of its time to live, and a value that was dropped is not. -/
theorem read_of_history_renewals :
    ((start 30 0 : Usage Nat).run renewals).read "first.yaml" = some 1 ∧
      ((start 30 0 : Usage Nat).run renewals).read "second.yaml" = none := by
  obtain ⟨read_iff, -, -⟩ := read_of_history (ν := Nat) 30 0 renewals
  rw [history_renewals, now_renewals] at read_iff
  constructor
  · have spared : ¬Change.Ends "first.yaml" (.invalidate "second" : Change Nat) :=
      mt (Text.contains_iff _ _).mpr (by decide)
    refine (read_iff _ _).mpr ⟨1, ⟨[], _, rfl, ?_⟩, by simp⟩
    exact List.forall_mem_cons.mpr ⟨by simp [Change.Ends], List.forall_mem_singleton.mpr spared⟩
  · have dropped : Change.Ends "second.yaml" (.invalidate "second" : Change Nat) :=
      (Text.contains_iff _ _).mp (by decide)
    refine Option.eq_none_iff_forall_ne_some.mpr fun value found => ?_
    obtain ⟨time, remembers, -⟩ := (read_iff _ _).mp found
    rw [← List.dropLast_concat_getLast (List.cons_ne_nil _ _), remembers_concat] at remembers
    exact (remembers.resolve_left (by simp)).2 dropped

end Usage

end Cache

end Reconciler
