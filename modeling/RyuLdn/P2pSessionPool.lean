import RyuLdn.P2pServer
import Mathlib.Data.List.Nodup

/-! Who owns which session object. `Pool` is the part of the server that ownership
is about; `Sound` is what has to hold between two critical sections. Each lemma
is one primitive move of an owning pointer, with the conditions under which it
keeps the pool sound. -/
namespace RyuLdn.P2pSessionPool

open OwnerSlots P2pServer

@[ext] structure Pool where
  sessions : List (Option SessionId)
  zombies : List (Option SessionId)
  zombieCount : Nat
  session : SessionId → Session
  allocated : Nat
  stackUsed : Nat → Bool
  frees : List (SessionId × Bool)

def pool (server : Server) : Pool :=
  ⟨server.sessions, server.zombieSessions, server.zombieSessionCount, server.session,
    server.allocated, server.stackUsed, server.frees⟩

/-- A session has a stack from `Start` to its destructor, and there are as many stacks
as slots of `m_sessions`; this bounds both arrays as long as nothing is freed. -/
structure Pool.Sound (p : Pool) : Prop where
  sessions_length : p.sessions.length = maxPlayers
  zombies_length : p.zombies.length = maxZombieSessions
  zombie_room : ∀ i, p.zombieCount ≤ i → i < maxZombieSessions → p.zombies[i]? = some none
  zombie_count : p.zombies.reduceOption.length = p.zombieCount
  nodup : (p.sessions.reduceOption ++ p.zombies.reduceOption).Nodup
  held : ∀ s ∈ p.sessions.reduceOption, s < p.allocated ∧ (p.session s).authenticated = true ∧
    (p.session s).stackSlot.isSome
  zombie : ∀ s ∈ p.zombies.reduceOption, s < p.allocated ∧ (p.session s).connected = false ∧
    (p.session s).stackSlot.isSome
  live : ∀ s, s < p.allocated → (p.session s).authenticated = true →
    (p.session s).connected = true → s ∈ p.sessions.reduceOption
  nothing_freed : p.frees = []
  stack : ∀ s k, s < p.allocated → (p.session s).stackSlot = some k →
    k < sessionStackCount ∧ p.stackUsed k = true
  stack_inj : ∀ s t k, s < p.allocated → t < p.allocated → (p.session s).stackSlot = some k →
    (p.session t).stackSlot = some k → s = t

variable {p : Pool} {s : SessionId}

theorem update_field {β : Type} {session : SessionId → Session} {next : Session}
    (field : Session → β) (same : field next = field (session s)) (t : SessionId) :
    field (Function.update session s next t) = field (session t) := by
  rcases eq_or_ne t s with rfl | other
  · rw [Function.update_self, same]
  · rw [Function.update_of_ne other]

theorem Pool.Sound.room (h : p.Sound) (made : s < p.allocated)
    (started : (p.session s).stackSlot.isSome) (notHeld : s ∉ p.sessions.reduceOption)
    (notZombie : s ∉ p.zombies.reduceOption) :
    p.sessions.reduceOption.length + p.zombieCount < maxPlayers := by
  let owned := p.sessions.reduceOption ++ p.zombies.reduceOption
  let slot := fun t => (p.session t).stackSlot.getD 0
  have spec : ∀ t ∈ s :: owned, t < p.allocated ∧ (p.session t).stackSlot = some (slot t) := by
    intro t member
    have stacked : t < p.allocated ∧ (p.session t).stackSlot.isSome := by
      rcases List.mem_cons.mp member with rfl | held
      · exact ⟨made, started⟩
      · rcases List.mem_append.mp held with session | zombie
        · exact ⟨(h.held t session).1, (h.held t session).2.2⟩
        · exact ⟨(h.zombie t zombie).1, (h.zombie t zombie).2.2⟩
    obtain ⟨k, value⟩ := Option.isSome_iff_exists.mp stacked.2
    exact ⟨stacked.1, by simp [slot, value]⟩
  have fresh : s ∉ owned := by
    rw [List.mem_append, not_or]
    exact ⟨notHeld, notZombie⟩
  have nodup : ((s :: owned).map slot).Nodup := by
    refine List.Nodup.map_on ?_ (List.nodup_cons.mpr ⟨fresh, h.nodup⟩)
    intro t tMember u uMember same
    obtain ⟨tBound, tSlot⟩ := spec t tMember
    obtain ⟨uBound, uSlot⟩ := spec u uMember
    exact h.stack_inj t u (slot t) tBound uBound tSlot (same ▸ uSlot)
  have within : (s :: owned).map slot ⊆ List.range sessionStackCount := by
    intro k member
    obtain ⟨t, tMember, rfl⟩ := List.mem_map.mp member
    obtain ⟨bound, value⟩ := spec t tMember
    exact List.mem_range.mpr (h.stack t _ bound value).1
  have count := (List.subperm_of_subset nodup within).length_le
  rw [List.length_map, List.length_cons, List.length_range, List.length_append,
    h.zombie_count] at count
  exact count

theorem Pool.Sound.zombieCount_lt (h : p.Sound) (made : s < p.allocated)
    (started : (p.session s).stackSlot.isSome) (notHeld : s ∉ p.sessions.reduceOption)
    (notZombie : s ∉ p.zombies.reduceOption) : p.zombieCount < maxZombieSessions := by
  have room := h.room made started notHeld notZombie
  simp only [maxZombieSessions]
  omega

theorem Pool.Sound.update (h : p.Sound) {next : Session}
    (authenticated : next.authenticated = (p.session s).authenticated)
    (stackSlot : next.stackSlot = (p.session s).stackSlot)
    (connected : next.connected = true → (p.session s).connected = true) :
    ({ p with session := Function.update p.session s next } : Pool).Sound := by
  have sameAuth := update_field Session.authenticated authenticated
  have sameStack := update_field Session.stackSlot stackSlot
  have neverOpens : ∀ t, (Function.update p.session s next t).connected = true →
      (p.session t).connected = true := by
    intro t
    rcases eq_or_ne t s with rfl | other
    · rw [Function.update_self]
      exact connected
    · rw [Function.update_of_ne other]
      exact id
  have staysClosed : ∀ t, (p.session t).connected = false →
      (Function.update p.session s next t).connected = false := by
    intro t closed
    by_contra opens
    have := neverOpens t (by simpa using opens)
    rw [closed] at this
    cases this
  exact {
    sessions_length := h.sessions_length
    zombies_length := h.zombies_length
    zombie_room := h.zombie_room
    zombie_count := h.zombie_count
    nodup := h.nodup
    held := fun t member => by
      simp only [sameAuth, sameStack]
      exact h.held t member
    zombie := fun t member => by
      obtain ⟨bound, closed, stacked⟩ := h.zombie t member
      simp only [sameStack]
      exact ⟨bound, staysClosed t closed, stacked⟩
    live := fun t bound auth conn => by
      rw [sameAuth] at auth
      exact h.live t bound auth (neverOpens t conn)
    nothing_freed := h.nothing_freed
    stack := fun t k bound slot => h.stack t k bound ((sameStack t).symm.trans slot)
    stack_inj := fun t u k tBound uBound tSlot uSlot =>
      h.stack_inj t u k tBound uBound ((sameStack t).symm.trans tSlot)
        ((sameStack u).symm.trans uSlot) }

theorem Pool.Sound.vacate (h : p.Sound) {i : Nat} (occupied : p.sessions[i]? = some (some s))
    (closed : (p.session s).connected = false) :
    ({ p with sessions := p.sessions.set i none } : Pool).Sound ∧
      s ∉ (p.sessions.set i none).reduceOption ∧ s ∉ p.zombies.reduceOption := by
  have perm := vacate_perm occupied
  have whole : (s :: ((p.sessions.set i none).reduceOption ++ p.zombies.reduceOption)).Nodup := by
    rw [← List.cons_append]
    exact ((perm.append_right _).nodup_iff).mp h.nodup
  obtain ⟨absent, nodup⟩ := List.nodup_cons.mp whole
  have fewer : ∀ t ∈ (p.sessions.set i none).reduceOption, t ∈ p.sessions.reduceOption :=
    fun t member => perm.mem_iff.mpr (List.mem_cons_of_mem _ member)
  rw [List.mem_append, not_or] at absent
  refine ⟨?_, absent⟩
  exact {
    sessions_length := by rw [List.length_set]; exact h.sessions_length
    zombies_length := h.zombies_length
    zombie_room := h.zombie_room
    zombie_count := h.zombie_count
    nodup := nodup
    held := fun t member => h.held t (fewer t member)
    zombie := h.zombie
    live := fun t bound auth conn => by
      rcases List.mem_cons.mp (perm.mem_iff.mp (h.live t bound auth conn)) with rfl | rest
      · rw [closed] at conn
        cases conn
      · exact rest
    nothing_freed := h.nothing_freed
    stack := h.stack
    stack_inj := h.stack_inj }

theorem Pool.Sound.enqueue (h : p.Sound) (made : s < p.allocated)
    (started : (p.session s).stackSlot.isSome) (closed : (p.session s).connected = false)
    (notHeld : s ∉ p.sessions.reduceOption) (notZombie : s ∉ p.zombies.reduceOption) :
    ({ p with
      zombies := p.zombies.set p.zombieCount (some s)
      zombieCount := p.zombieCount + 1 } : Pool).Sound := by
  have free := h.zombie_room p.zombieCount (Nat.le_refl _)
    (h.zombieCount_lt made started notHeld notZombie)
  have perm := occupy_perm free s
  exact {
    sessions_length := h.sessions_length
    zombies_length := by rw [List.length_set]; exact h.zombies_length
    zombie_room := fun i above bound => by
      have behind : p.zombieCount + 1 ≤ i := above
      rw [List.getElem?_set_ne (by omega)]
      exact h.zombie_room i (by omega) bound
    zombie_count := by rw [perm.length_eq, List.length_cons, h.zombie_count]
    nodup := by
      rw [(perm.append_left _).nodup_iff, List.perm_middle.nodup_iff, List.nodup_cons,
        List.mem_append, not_or]
      exact ⟨⟨notHeld, notZombie⟩, h.nodup⟩
    held := h.held
    zombie := fun t member => by
      rcases List.mem_cons.mp (perm.mem_iff.mp member) with rfl | old
      · exact ⟨made, closed, started⟩
      · exact h.zombie t old
    live := h.live
    nothing_freed := h.nothing_freed
    stack := h.stack
    stack_inj := h.stack_inj }

theorem Pool.Sound.occupy (h : p.Sound) {i : Nat} {next : Session}
    (free : p.sessions[i]? = some none) (made : s < p.allocated)
    (notHeld : s ∉ p.sessions.reduceOption) (notZombie : s ∉ p.zombies.reduceOption)
    (started : (p.session s).stackSlot.isSome) (nextAuthenticated : next.authenticated = true)
    (nextStack : next.stackSlot = (p.session s).stackSlot) :
    ({ p with
      sessions := p.sessions.set i (some s)
      session := Function.update p.session s next } : Pool).Sound := by
  have perm := occupy_perm free s
  have others : ∀ t, t ≠ s → Function.update p.session s next t = p.session t :=
    fun t other => Function.update_of_ne other _ _
  have sameStack := update_field Session.stackSlot nextStack
  exact {
    sessions_length := by rw [List.length_set]; exact h.sessions_length
    zombies_length := h.zombies_length
    zombie_room := h.zombie_room
    zombie_count := h.zombie_count
    nodup := by
      rw [(perm.append_right _).nodup_iff, List.cons_append, List.nodup_cons, List.mem_append,
        not_or]
      exact ⟨⟨notHeld, notZombie⟩, h.nodup⟩
    held := fun t member => by
      rcases List.mem_cons.mp (perm.mem_iff.mp member) with rfl | old
      · simp only [Function.update_self]
        exact ⟨made, nextAuthenticated, by rw [nextStack]; exact started⟩
      · have other : t ≠ s := fun same => notHeld (same ▸ old)
        simp only [others t other]
        exact h.held t old
    zombie := fun t member => by
      have other : t ≠ s := fun same => notZombie (same ▸ member)
      simp only [others t other]
      exact h.zombie t member
    live := fun t bound auth conn => by
      rw [perm.mem_iff, List.mem_cons]
      rcases eq_or_ne t s with rfl | other
      · exact .inl rfl
      · simp only [others t other] at auth conn
        exact .inr (h.live t bound auth conn)
    nothing_freed := h.nothing_freed
    stack := fun t k bound slot => h.stack t k bound ((sameStack t).symm.trans slot)
    stack_inj := fun t u k tBound uBound tSlot uSlot =>
      h.stack_inj t u k tBound uBound ((sameStack t).symm.trans tSlot)
        ((sameStack u).symm.trans uSlot) }

theorem Pool.Sound.create (h : p.Sound) {next : Session} {used : Nat → Bool}
    (nextAuthenticated : next.authenticated = false)
    (nextUsed : ∀ k, p.stackUsed k = true → used k = true)
    (nextStack : ∀ k, next.stackSlot = some k →
      k < sessionStackCount ∧ p.stackUsed k = false ∧ used k = true) :
    ({ p with
      session := Function.update p.session p.allocated next
      allocated := p.allocated + 1
      stackUsed := used } : Pool).Sound := by
  have old : ∀ t, t < p.allocated → Function.update p.session p.allocated next t = p.session t :=
    fun t bound => Function.update_of_ne (Nat.ne_of_lt bound) _ _
  have either : ∀ t, t < p.allocated + 1 → t < p.allocated ∨ t = p.allocated := by omega
  -- a slot that is in use cannot be the one the new session was given
  have fresh : ∀ t k, t < p.allocated → (p.session t).stackSlot = some k →
      next.stackSlot ≠ some k := by
    intro t k bound slot new
    have busy := (h.stack t k bound slot).2
    rw [(nextStack k new).2.1] at busy
    cases busy
  exact {
    sessions_length := h.sessions_length
    zombies_length := h.zombies_length
    zombie_room := h.zombie_room
    zombie_count := h.zombie_count
    nodup := h.nodup
    held := fun t member => by
      obtain ⟨bound, held⟩ := h.held t member
      simp only [old t bound]
      exact ⟨Nat.lt_succ_of_lt bound, held⟩
    zombie := fun t member => by
      obtain ⟨bound, zombie⟩ := h.zombie t member
      simp only [old t bound]
      exact ⟨Nat.lt_succ_of_lt bound, zombie⟩
    live := fun t bound auth conn => by
      rcases either t bound with before | rfl
      · simp only [old t before] at auth conn
        exact h.live t before auth conn
      · simp only [Function.update_self, nextAuthenticated] at auth
        cases auth
    nothing_freed := h.nothing_freed
    stack := fun t k bound slot => by
      rcases either t bound with before | rfl
      · simp only [old t before] at slot
        exact ⟨(h.stack t k before slot).1, nextUsed k (h.stack t k before slot).2⟩
      · simp only [Function.update_self] at slot
        exact ⟨(nextStack k slot).1, (nextStack k slot).2.2⟩
    stack_inj := fun t u k tBound uBound tSlot uSlot => by
      rcases either t tBound with tOld | rfl <;> rcases either u uBound with uOld | rfl
      · simp only [old t tOld] at tSlot
        simp only [old u uOld] at uSlot
        exact h.stack_inj t u k tOld uOld tSlot uSlot
      · simp only [old t tOld] at tSlot
        simp only [Function.update_self] at uSlot
        exact absurd uSlot (fresh t k tOld tSlot)
      · simp only [Function.update_self] at tSlot
        simp only [old u uOld] at uSlot
        exact absurd tSlot (fresh u k uOld uSlot)
      · rfl }

end RyuLdn.P2pSessionPool
