import Leuit.Engine.Locks
import Mathlib.Data.Finset.Card
import Mathlib.Data.List.Sort

/-! The order in which locks are taken. Whatever locks a call asks for, it takes one for each table, in the
order of the tables, for writing if it asks for that anywhere (`LockRequest.normal_normalize`); so requests
with the same members come to the same locks (`LockRequest.Normal.unique`). A registry makes a lock when its
table is first asked for and keeps it (`LockRegistry.locksFor_fst`). Calls may begin while others hold locks and
may end in any order: at every moment the registry has one lock for each table of a database that was asked
for, and all calls under way hold theirs in order (`LockState.Sound`, `LockState.locks_in_order`). -/
namespace Leuit

/-! ### Modes -/

namespace LockMode
variable {a b : LockMode}

theorem eq_of_write_iff (h : a = .write ↔ b = .write) : a = b := by
  cases a <;> cases b <;> simp_all

end LockMode

/-! ### Requests -/

namespace LockRequest
variable {request lock : LockRequest} {requests requests' locks locks' : List LockRequest} {table : String}
  {mode : LockMode}

/-- In increasing order of tables, so that each table stands there once. -/
abbrev Ordered (locks : List LockRequest) : Prop := locks.Pairwise (·.table < ·.table)

theorem not_mem_of_lt (h : ∀ lock ∈ locks, table < lock.table) (mode : LockMode) : ⟨table, mode⟩ ∉ locks :=
  fun hmem => String.lt_irrefl table (h _ hmem)

/-- A request changes nothing for other tables. -/
theorem mem_merge_of_ne (hne : lock.table ≠ request.table) : lock ∈ merge request locks ↔ lock ∈ locks := by
  have hreplaced : ∀ replacement : LockRequest, replacement.table = request.table → lock ≠ replacement :=
    fun replacement htable heq => hne (heq ▸ htable)
  induction locks with
  | nil => simp [merge, hreplaced request rfl]
  | cons other rest ih =>
    unfold merge
    split
    · simp [hreplaced request rfl]
    · split
      · simp [ih]
      · next hlow hhigh =>
        have htable : other.table = request.table :=
          String.le_antisymm (String.not_lt.mp hlow) (String.not_lt.mp hhigh)
        have hmerged := hreplaced ⟨other.table, other.mode.strongest request.mode⟩ htable
        rw [List.mem_cons, List.mem_cons, or_iff_right hmerged, or_iff_right (hreplaced other htable)]

/-- The table of a request is locked in the strongest mode that it was asked for, now or before. -/
theorem mem_merge_self (h : Ordered locks) :
    ⟨request.table, mode⟩ ∈ merge request locks ↔
      (mode = .write ↔ request.mode = .write ∨ ⟨request.table, .write⟩ ∈ locks) := by
  obtain ⟨table, requested⟩ := request
  induction locks with
  | nil => cases mode <;> cases requested <;> simp [merge]
  | cons other rest ih =>
    obtain ⟨hother, hrest⟩ := List.pairwise_cons.mp h
    unfold merge
    split
    · next hlow =>
      -- the table stands before all others
      have hnone : ∀ mode, ⟨table, mode⟩ ∉ other :: rest := not_mem_of_lt <|
        List.forall_mem_cons.mpr ⟨hlow, fun lock hlock => String.lt_trans hlow (hother lock hlock)⟩
      rw [List.mem_cons, or_iff_left (hnone mode), or_iff_left (hnone .write)]
      cases mode <;> cases requested <;> simp
    · split
      · next hhigh =>
        have hne : ∀ mode, (⟨table, mode⟩ : LockRequest) ≠ other := by
          rintro mode rfl
          exact String.lt_irrefl _ hhigh
        rw [List.mem_cons, List.mem_cons, or_iff_right (hne mode), or_iff_right (hne .write), ih hrest]
      · next hlow hhigh =>
        obtain rfl : other.table = table := String.le_antisymm (String.not_lt.mp hlow) (String.not_lt.mp hhigh)
        have hnone := not_mem_of_lt hother
        rw [List.mem_cons, List.mem_cons, or_iff_left (hnone mode), or_iff_left (hnone .write), mk.injEq]
        obtain ⟨table, held⟩ := other
        cases mode <;> cases requested <;> cases held <;> simp [LockMode.strongest]

theorem merge_ordered (h : Ordered locks) : Ordered (merge request locks) := by
  induction locks with
  | nil => simp [merge]
  | cons other rest ih =>
    obtain ⟨hother, hrest⟩ := List.pairwise_cons.mp h
    unfold merge
    split
    · next hlow =>
      exact List.pairwise_cons.mpr ⟨List.forall_mem_cons.mpr
        ⟨hlow, fun lock hlock => String.lt_trans hlow (hother lock hlock)⟩, h⟩
    · split
      · next hhigh =>
        refine List.pairwise_cons.mpr ⟨fun lock hlock => ?_, ih hrest⟩
        by_cases htable : lock.table = request.table
        · rwa [htable]
        · exact hother lock ((mem_merge_of_ne htable).mp hlock)
      · exact List.pairwise_cons.mpr ⟨hother, hrest⟩

/-- What requests come to: one lock for each table that is asked for, in the order of the tables, for writing
exactly if that is asked for. -/
structure Normal (requests locks : List LockRequest) : Prop where
  ordered : Ordered locks
  tables : ∀ table, (∃ lock ∈ locks, lock.table = table) ↔ ∃ request ∈ requests, request.table = table
  strongest : ∀ lock ∈ locks, lock.mode = .write ↔ ⟨lock.table, .write⟩ ∈ requests

namespace Normal

theorem write_mem_iff (h : Normal requests locks) : ⟨table, .write⟩ ∈ locks ↔ ⟨table, .write⟩ ∈ requests := by
  constructor
  · exact fun hlock => (h.strongest _ hlock).mp rfl
  · intro hrequest
    obtain ⟨⟨table, mode⟩, hlock, rfl⟩ := (h.tables table).mpr ⟨_, hrequest, rfl⟩
    obtain rfl : mode = .write := (h.strongest _ hlock).mpr hrequest
    exact hlock

/-- One more request. -/
theorem merge (h : Normal requests locks) (request : LockRequest) :
    Normal (requests ++ [request]) (merge request locks) where
  ordered := merge_ordered h.ordered
  tables table := by
    by_cases htable : table = request.table
    · subst htable
      have hlock : ∃ lock ∈ LockRequest.merge request locks, lock.table = request.table := by
        by_cases hwrite : request.mode = .write ∨ ⟨request.table, .write⟩ ∈ locks
        · exact ⟨⟨_, .write⟩, (mem_merge_self h.ordered).mpr (by simp [hwrite]), rfl⟩
        · exact ⟨⟨_, .read⟩, (mem_merge_self h.ordered).mpr (by simp [hwrite]), rfl⟩
      simp [hlock]
    · have hsame : (∃ lock ∈ LockRequest.merge request locks, lock.table = table) ↔
          ∃ lock ∈ locks, lock.table = table := by
        refine exists_congr fun lock => and_congr_left fun hlock => mem_merge_of_ne ?_
        rwa [hlock]
      rw [hsame, h.tables]
      simp [Ne.symm htable, or_and_right, exists_or]
  strongest lock hlock := by
    rw [List.mem_append, List.mem_singleton]
    by_cases htable : lock.table = request.table
    · obtain ⟨table, mode⟩ := lock
      subst htable
      rw [(mem_merge_self h.ordered).mp hlock, h.write_mem_iff, or_comm]
      refine or_congr_right ⟨fun hmode => ?_, fun heq => ?_⟩
      · rw [← hmode]
      · rw [← heq]
    · have hother : ⟨lock.table, .write⟩ ≠ request := by
        rintro rfl
        exact htable rfl
      rw [h.strongest lock ((mem_merge_of_ne htable).mp hlock), or_iff_left hother]

/-- Requests with the same members come to the same locks. -/
theorem unique (h : Normal requests locks) (h' : Normal requests' locks')
    (hsame : ∀ request, request ∈ requests ↔ request ∈ requests') : locks = locks' := by
  have hsub : ∀ {requests requests' locks locks' : List LockRequest}, Normal requests locks →
      Normal requests' locks' → (∀ request, request ∈ requests ↔ request ∈ requests') →
      ∀ lock ∈ locks, lock ∈ locks' := by
    intro requests requests' locks locks' h h' hsame lock hlock
    obtain ⟨request, hrequest, htable⟩ := (h.tables lock.table).mp ⟨lock, hlock, rfl⟩
    obtain ⟨lock', hlock', htable'⟩ := (h'.tables lock.table).mpr ⟨request, (hsame request).mp hrequest, htable⟩
    have hmode : lock'.mode = lock.mode := by
      refine LockMode.eq_of_write_iff ?_
      rw [h'.strongest lock' hlock', h.strongest lock hlock, htable', hsame]
    obtain rfl : lock' = lock := by
      cases lock'
      cases lock
      simp_all
    exact hlock'
  have hirrefl : Std.Irrefl fun a b : LockRequest => a.table < b.table := ⟨fun a => String.lt_irrefl a.table⟩
  have hasymm : Std.Asymm fun a b : LockRequest => a.table < b.table := ⟨fun a b => String.lt_asymm⟩
  exact h.ordered.eq_of_mem_iff h'.ordered fun lock =>
    ⟨hsub h h' hsame lock, hsub h' h (fun request => (hsame request).symm) lock⟩

end Normal

theorem normal_normalize (requests : List LockRequest) : Normal requests (normalize requests) := by
  have hfold : ∀ rest seen locks, Normal seen locks →
      Normal (seen ++ rest) (rest.foldl (fun merged request => merge request merged) locks) := by
    intro rest
    induction rest with
    | nil => simp
    | cons request rest ih =>
      intro seen locks h
      rw [List.append_cons]
      exact ih _ _ (h.merge request)
  exact hfold requests [] [] ⟨.nil, by simp, by simp⟩

theorem normalize_congr (h : ∀ request, request ∈ requests ↔ request ∈ requests') :
    normalize requests = normalize requests' :=
  (normal_normalize requests).unique (normal_normalize requests') h

end LockRequest

/-! ### The locks of a registry -/

/-- A lock that is held, and the request it was taken for. -/
structure HeldLock where
  /-- Which lock of the registry it is. -/
  number : Nat
  request : LockRequest
deriving DecidableEq, Repr

namespace LockRegistry
variable {r r' : LockRegistry} {database table : String} {key : String × String} {requests : List LockRequest}

/-- The lock of a table. Locks are numbered as they are made, which is when their tables are first asked for. -/
def lockOf (r : LockRegistry) (key : String × String) : Nat := r.touched.idxOf key

/-- Looks the locks up that are requested, one after the other, and makes those that are missing. -/
def locksFor (r : LockRegistry) (database : String) : List LockRequest → List HeldLock × LockRegistry
  | [] => ([], r)
  | request :: rest =>
    let next := r.touch database request.table
    let (locks, last) := next.locksFor database rest
    (⟨next.lockOf (database, request.table), request⟩ :: locks, last)

/-- A registry that has the same locks, and perhaps more that were made later. -/
def Extends (r' r : LockRegistry) : Prop := r.touched <+: r'.touched

theorem Extends.refl (r : LockRegistry) : r.Extends r := List.prefix_rfl

theorem Extends.trans {r'' : LockRegistry} (h' : r''.Extends r') (h : r'.Extends r) : r''.Extends r :=
  List.IsPrefix.trans h h'

theorem Extends.mem (h : r'.Extends r) (hkey : key ∈ r.touched) : key ∈ r'.touched := h.subset hkey

/-- A lock stays the same. -/
theorem Extends.lockOf (h : r'.Extends r) (hkey : key ∈ r.touched) : r'.lockOf key = r.lockOf key := by
  obtain ⟨more, hmore⟩ := h
  rw [LockRegistry.lockOf, ← hmore, List.idxOf_append_of_mem hkey]
  rfl

theorem lockOf_inj {key' : String × String} (hkey : key ∈ r.touched) :
    r.lockOf key = r.lockOf key' ↔ key = key' := List.idxOf_inj hkey

theorem touch_extends (r : LockRegistry) (database table : String) : (r.touch database table).Extends r := by
  unfold touch
  split
  · exact .refl r
  · exact List.prefix_append _ _

theorem mem_touch : key ∈ (r.touch database table).touched ↔ key = (database, table) ∨ key ∈ r.touched := by
  unfold touch
  split
  · next hmem =>
    rw [or_iff_right_of_imp]
    rintro rfl
    exact hmem
  · rw [List.mem_append, List.mem_singleton, or_comm]

theorem nodup_touch (h : r.touched.Nodup) : (r.touch database table).touched.Nodup := by
  unfold touch
  split
  · exact h
  · next hnew => exact h.append (List.nodup_singleton _) (List.disjoint_singleton.mpr hnew)

theorem locksFor_snd (r : LockRegistry) (database : String) (requests : List LockRequest) :
    (r.locksFor database requests).2 = requests.foldl (fun r request => r.touch database request.table) r := by
  induction requests generalizing r with
  | nil => rfl
  | cons request rest ih => exact ih _

/-- Looking up the locks makes those that are missing, and no more. -/
theorem acquire_eq (r : LockRegistry) (database : String) (requests : List LockRequest) :
    r.acquire database requests = (r.locksFor database (LockRequest.normalize requests)).2 :=
  (locksFor_snd r database _).symm

theorem locksFor_extends (r : LockRegistry) (database : String) (requests : List LockRequest) :
    (r.locksFor database requests).2.Extends r := by
  induction requests generalizing r with
  | nil => exact .refl r
  | cons request rest ih => exact (ih _).trans (r.touch_extends database request.table)

theorem mem_locksFor :
    key ∈ (r.locksFor database requests).2.touched ↔
      (∃ request ∈ requests, key = (database, request.table)) ∨ key ∈ r.touched := by
  induction requests generalizing r with
  | nil => simp [locksFor]
  | cons request rest ih =>
    show key ∈ ((r.touch database request.table).locksFor database rest).2.touched ↔ _
    rw [ih, mem_touch, or_left_comm, ← or_assoc]
    simp

theorem nodup_locksFor (h : r.touched.Nodup) : (r.locksFor database requests).2.touched.Nodup := by
  induction requests generalizing r with
  | nil => exact h
  | cons request rest ih => exact ih (nodup_touch h)

/-- The locks that are looked up are those that the registry has for the tables, then and later. -/
theorem locksFor_fst (h : r'.Extends (r.locksFor database requests).2) :
    (r.locksFor database requests).1 =
      requests.map fun request => ⟨r'.lockOf (database, request.table), request⟩ := by
  induction requests generalizing r with
  | nil => rfl
  | cons request rest ih =>
    have hnext : r'.Extends (r.touch database request.table) := h.trans (locksFor_extends _ database rest)
    have hlock := hnext.lockOf (mem_touch.mpr (.inl rfl))
    show _ :: _ = _ :: _
    rw [← hlock, ih h]

theorem acquire_extends (r : LockRegistry) (database : String) (requests : List LockRequest) :
    (r.acquire database requests).Extends r := by
  rw [acquire_eq]
  exact locksFor_extends r database _

theorem mem_acquire :
    key ∈ (r.acquire database requests).touched ↔
      key ∈ requests.map (fun request => (database, request.table)) ∨ key ∈ r.touched := by
  rw [acquire_eq, mem_locksFor, List.mem_map]
  refine or_congr_left ⟨?_, ?_⟩
  · rintro ⟨lock, hlock, rfl⟩
    obtain ⟨request, hrequest, htable⟩ :=
      ((LockRequest.normal_normalize requests).tables lock.table).mp ⟨lock, hlock, rfl⟩
    exact ⟨request, hrequest, by rw [htable]⟩
  · rintro ⟨request, hrequest, rfl⟩
    obtain ⟨lock, hlock, htable⟩ :=
      ((LockRequest.normal_normalize requests).tables request.table).mpr ⟨request, hrequest, rfl⟩
    exact ⟨lock, hlock, by rw [htable]⟩

theorem nodup_acquire (h : r.touched.Nodup) : (r.acquire database requests).touched.Nodup := by
  rw [acquire_eq]
  exact nodup_locksFor h

end LockRegistry

/-! ### Calls -/

/-- A call that is under way, and the locks it holds. -/
structure LockedCall where
  database : String
  requests : List LockRequest
  locks : List HeldLock
deriving DecidableEq, Repr

namespace LockedCall
variable {call : LockedCall} {r r' : LockRegistry}

/-- A call has one lock for each table it asks for, in the order of the tables, for writing if it asks for
that, and no lock twice. -/
structure InOrder (call : LockedCall) : Prop where
  normal : LockRequest.Normal call.requests (call.locks.map HeldLock.request)
  once : (call.locks.map HeldLock.number).Nodup

/-- A call holds the locks that a registry has for its tables. -/
structure Holds (call : LockedCall) (r : LockRegistry) : Prop where
  made : ∀ request ∈ call.requests, (call.database, request.table) ∈ r.touched
  locks : call.locks = (LockRequest.normalize call.requests).map fun request =>
    ⟨r.lockOf (call.database, request.table), request⟩

namespace Holds

theorem made_normalize (h : call.Holds r) {request : LockRequest}
    (hrequest : request ∈ LockRequest.normalize call.requests) : (call.database, request.table) ∈ r.touched := by
  obtain ⟨asked, hasked, htable⟩ :=
    ((LockRequest.normal_normalize call.requests).tables request.table).mp ⟨request, hrequest, rfl⟩
  rw [← htable]
  exact h.made asked hasked

theorem mono (h : call.Holds r) (hext : r'.Extends r) : call.Holds r' where
  made request hrequest := hext.mem (h.made request hrequest)
  locks := by
    rw [h.locks]
    refine List.map_congr_left fun request hrequest => ?_
    rw [hext.lockOf (h.made_normalize hrequest)]

/-- Where the locks that are held come from. -/
theorem of_mem (h : call.Holds r) {lock : HeldLock} (hlock : lock ∈ call.locks) :
    (call.database, lock.request.table) ∈ r.touched ∧
      lock.number = r.lockOf (call.database, lock.request.table) := by
  rw [h.locks] at hlock
  obtain ⟨request, hrequest, rfl⟩ := List.mem_map.mp hlock
  exact ⟨h.made_normalize hrequest, rfl⟩

theorem inOrder (h : call.Holds r) : call.InOrder := by
  have hnormal := LockRequest.normal_normalize call.requests
  have hrequests : call.locks.map HeldLock.request = LockRequest.normalize call.requests := by
    rw [h.locks, List.map_map]
    exact List.map_id _
  refine ⟨hrequests ▸ hnormal, ?_⟩
  have htables : ((LockRequest.normalize call.requests).map LockRequest.table).Nodup :=
    List.pairwise_map.mpr <| hnormal.ordered.imp fun {a b} hlt (heq : a.table = b.table) =>
      String.lt_irrefl b.table (heq ▸ hlt)
  have hnumbers : call.locks.map HeldLock.number =
      ((LockRequest.normalize call.requests).map LockRequest.table).map fun table =>
        r.lockOf (call.database, table) := by
    rw [h.locks, List.map_map, List.map_map]
    rfl
  rw [hnumbers]
  refine htables.map_on fun table htable table' _ heq => ?_
  obtain ⟨request, hrequest, rfl⟩ := List.mem_map.mp htable
  exact (Prod.mk.inj ((LockRegistry.lockOf_inj (h.made_normalize hrequest)).mp heq)).2

end Holds

end LockedCall

/-! ### Histories -/

/-- A registry and the calls that hold its locks. -/
structure LockState where
  registry : LockRegistry
  underWay : List LockedCall

/-- What happens to a registry. Calls may begin while others are under way, from inside them or elsewhere. -/
inductive LockEvent where
  /-- A call asks for locks in a database, takes them and holds them while it runs. -/
  | begin (database : String) (requests : List LockRequest)
  /-- One of the calls under way is over, by its place among them, and gives its locks back. -/
  | finish (i : Nat)
deriving DecidableEq, Repr

/-- The tables that are asked for, each with its database. -/
def LockEvent.asked : LockEvent → List (String × String)
  | begin database requests => requests.map fun request => (database, request.table)
  | finish _ => []

namespace LockState
variable {s : LockState} {asked : List (String × String)}

/-- No lock was ever asked for. -/
def fresh : LockState := ⟨.empty, []⟩

/-- The locks that requests in a database come to, in the order in which they are taken. -/
def locksFor (s : LockState) (database : String) (requests : List LockRequest) : List HeldLock :=
  (s.registry.locksFor database (LockRequest.normalize requests)).1

def step (s : LockState) : LockEvent → LockState
  | .begin database requests =>
    ⟨s.registry.acquire database requests,
      ⟨database, requests, s.locksFor database requests⟩ :: s.underWay⟩
  | .finish i => { s with underWay := s.underWay.eraseIdx i }

def after (s : LockState) (events : List LockEvent) : LockState := events.foldl step s

/-- A registry has one lock for each table that was asked for, and the calls under way hold theirs. -/
structure Sound (s : LockState) (asked : List (String × String)) : Prop where
  nodup : s.registry.touched.Nodup
  touched : ∀ key, key ∈ s.registry.touched ↔ key ∈ asked
  held : ∀ call ∈ s.underWay, call.Holds s.registry

theorem Sound.step (h : s.Sound asked) (event : LockEvent) : (s.step event).Sound (asked ++ event.asked) := by
  cases event with
  | begin database requests =>
    have hext := s.registry.acquire_extends database requests
    refine ⟨LockRegistry.nodup_acquire h.nodup, fun key => ?_, List.forall_mem_cons.mpr ⟨⟨?_, ?_⟩, ?_⟩⟩
    · rw [List.mem_append, or_comm, ← h.touched key]
      exact LockRegistry.mem_acquire
    · exact fun request hrequest => LockRegistry.mem_acquire.mpr (.inl (List.mem_map_of_mem hrequest))
    · exact LockRegistry.locksFor_fst (LockRegistry.acquire_eq .. ▸ .refl _)
    · exact fun call hcall => (h.held call hcall).mono hext
  | finish i =>
    rw [LockEvent.asked, List.append_nil]
    exact ⟨h.nodup, h.touched, fun call hcall => h.held call (List.mem_of_mem_eraseIdx hcall)⟩

theorem Sound.after (h : s.Sound asked) (events : List LockEvent) :
    (s.after events).Sound (asked ++ events.flatMap LockEvent.asked) := by
  induction events generalizing s asked with
  | nil => simpa [LockState.after] using h
  | cons event rest ih =>
    rw [List.flatMap_cons, ← List.append_assoc]
    exact ih (h.step event)

theorem sound_fresh : fresh.Sound [] := ⟨.nil, fun _ => Iff.rfl, nofun⟩

theorem after_extends (s : LockState) (events : List LockEvent) :
    (s.after events).registry.Extends s.registry := by
  induction events generalizing s with
  | nil => exact .refl _
  | cons event rest ih =>
    refine (ih (s.step event)).trans ?_
    cases event with
    | begin database requests => exact s.registry.acquire_extends database requests
    | finish i => exact .refl _

theorem locksFor_congr {requests requests' : List LockRequest}
    (h : ∀ request, request ∈ requests ↔ request ∈ requests') (s : LockState) (database : String) :
    s.locksFor database requests' = s.locksFor database requests := by
  rw [locksFor, locksFor, LockRequest.normalize_congr h]

/-- Locks that were taken once are the same ever after. -/
theorem locksFor_later (s : LockState) (database : String) (requests : List LockRequest)
    (later : List LockEvent) :
    (s.after (.begin database requests :: later)).locksFor database requests =
      s.locksFor database requests := by
  have hmade : (s.after (.begin database requests :: later)).registry.Extends
      (s.registry.acquire database requests) := after_extends (s.step (.begin database requests)) later
  rw [LockRegistry.acquire_eq] at hmade
  have hlast := LockRegistry.locksFor_extends (s.after (.begin database requests :: later)).registry database
    (LockRequest.normalize requests)
  exact (LockRegistry.locksFor_fst (.refl _)).trans (LockRegistry.locksFor_fst (hlast.trans hmade)).symm

/-- What is known of the locks of a registry after a history of calls. -/
structure Orderly (s : LockState) (events : List LockEvent) : Prop where
  /-- The registry has counted the tables asked for so far, each once in each database. -/
  size : s.registry.size = (events.flatMap LockEvent.asked).toFinset.card
  calls : ∀ call ∈ s.underWay, call.InOrder
  /-- Different tables have different locks, and so have the tables of different databases. -/
  apart : ∀ call ∈ s.underWay, ∀ call' ∈ s.underWay, ∀ lock ∈ call.locks, ∀ lock' ∈ call'.locks,
    lock.number = lock'.number ↔
      (call.database, lock.request.table) = (call'.database, lock'.request.table)
  /-- Requests with the same members come to the same locks in the same order, now and later. -/
  same : ∀ (database : String) (requests requests' : List LockRequest),
    (∀ request, request ∈ requests ↔ request ∈ requests') →
      s.locksFor database requests' = s.locksFor database requests ∧
        ∀ later, (s.after (.begin database requests :: later)).locksFor database requests' =
          s.locksFor database requests

/-- **Locks are taken in order and counted once**, whatever calls have begun and ended. -/
theorem locks_in_order (events : List LockEvent) : (fresh.after events).Orderly events := by
  have h : (fresh.after events).Sound (events.flatMap LockEvent.asked) := sound_fresh.after events
  refine ⟨?_, fun call hcall => (h.held call hcall).inOrder, ?_, ?_⟩
  · rw [LockRegistry.size, ← List.toFinset_card_of_nodup h.nodup]
    congr 1
    ext key
    rw [List.mem_toFinset, List.mem_toFinset, h.touched]
  · intro call hcall call' hcall' lock hlock lock' hlock'
    obtain ⟨hmade, hnumber⟩ := (h.held call hcall).of_mem hlock
    obtain ⟨-, hnumber'⟩ := (h.held call' hcall').of_mem hlock'
    rw [hnumber, hnumber', LockRegistry.lockOf_inj hmade]
  · intro database requests requests' hsame
    refine ⟨locksFor_congr hsame _ database, fun later => ?_⟩
    rw [locksFor_congr hsame, locksFor_later]

/-- Two calls at once, one of which asks for a table twice. -/
theorem locks_in_order_kin :
    let events := [LockEvent.begin "kantor" [⟨"t", .write⟩, ⟨"p", .read⟩, ⟨"t", .read⟩],
      .begin "luar" [⟨"t", .read⟩]]
    let s := fresh.after events
    s.registry.size = 3 ∧
      s.underWay.map LockedCall.locks = [[⟨2, "t", .read⟩], [⟨0, "p", .read⟩, ⟨1, "t", .write⟩]] ∧
      s.locksFor "kantor" [⟨"p", .read⟩, ⟨"t", .read⟩, ⟨"p", .read⟩, ⟨"t", .write⟩] =
        s.locksFor "kantor" [⟨"t", .write⟩, ⟨"p", .read⟩, ⟨"t", .read⟩] := by
  intro events s
  have h : s.Orderly events := locks_in_order events
  have hsize : (events.flatMap LockEvent.asked).toFinset.card = 3 := by decide
  exact ⟨h.size.trans hsize, by decide, (h.same "kantor" _ _ fun request => by simp; tauto).1⟩

end LockState

end Leuit
