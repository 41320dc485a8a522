import AsterYggdrasil.Yggdrasil.Session
import Mathlib

/-!
# The order of the forward servers is a weighted shuffle

`weighted_forward_order` sorts the servers by priority and shuffles each group of equal
priority: it draws a ticket below the sum of the weights, counts it down along the
servers, takes out the one where it falls, and repeats.  The sums and tickets are `i64`
and a range that is drawn from must not be empty.  Here every step of the arithmetic is
checked, `none` being a panic or a loop that goes on, and each round leaves a `Pick`.

**`weightedForwardOrder_correct`** says that up to 2^32 servers nothing goes wrong, that
each ticket falls into the interval of the server that is picked, and that the picks are
a permutation of the servers along which priorities do not decrease.
-/

namespace AsterYggdrasil

open List

/-- A result of `i64` arithmetic. -/
def i64 (n : Int) : Option Int := if -2 ^ 63 ≤ n ∧ n < 2 ^ 63 then some n else none

/-- `sum::<i64>` of the clamped weights. -/
def sumTicketWeights (acc : Int) : List ForwardServer → Option Int
  | [] => some acc
  | f :: rest => do
      let acc ← i64 (acc + f.ticketWeight)
      sumTicketWeights acc rest

/-- The countdown of the ticket. -/
def countDown (ticket : Int) (index : Nat) : List ForwardServer → Option Nat
  | [] => some 0
  | f :: rest => do
      let ticket ← i64 (ticket - f.ticketWeight)
      if ticket < 0 then some index else countDown ticket (index + 1) rest

/-- One round of `weighted_group_order`: the servers that are left, the range
`0..total`, the ticket, and where it falls. -/
structure Pick where
  servers : List ForwardServer
  total : Int
  ticket : Int
  selected : Nat
  deriving DecidableEq, Repr

/-- The server that a round takes out. -/
def Pick.server (p : Pick) : Option ForwardServer := p.servers[p.selected]?

/-- `random_range` panics on an empty range, `remove` behind the end. -/
def pickServer (draw : Nat) (servers : List ForwardServer) : Option Pick := do
  let total ← sumTicketWeights 0 servers
  guard (0 < total)
  let ticket := draw % total
  let selected ← countDown ticket 0 servers
  guard (selected < servers.length)
  some ⟨servers, total, ticket, selected⟩

/-- The loop of `weighted_group_order`, for at most `n` rounds. -/
def groupPicks (draws : Nat → Nat) : Nat → Nat → List ForwardServer → Option (List Pick)
  | _, _, [] => some []
  | 0, _, _ :: _ => none
  | n + 1, k, f :: rest => do
      let pick ← pickServer (draws k) (f :: rest)
      let picks ← groupPicks draws n (k + 1) ((f :: rest).eraseIdx pick.selected)
      some (pick :: picks)

/-- The loop of `weighted_forward_order`, for at most `n` groups. -/
def forwardLoopPicks (draws : Nat → Nat) : Nat → Nat → List ForwardServer → Option (List Pick)
  | _, _, [] => some []
  | 0, _, _ :: _ => none
  | n + 1, k, f :: rest => do
      let group := f :: rest.takeWhile fun g => g.priority = f.priority
      let picks ← groupPicks draws group.length k group
      let others ← forwardLoopPicks draws n (k + group.length)
        (rest.dropWhile fun g => g.priority = f.priority)
      some (picks ++ others)

/-- The rounds of `weighted_forward_order`. -/
def weightedForwardPicks (draws : Nat → Nat) (servers : List ForwardServer) :
    Option (List Pick) :=
  let sorted := servers.insertionSort fun a b =>
    a.priority < b.priority ∨ (a.priority = b.priority ∧ a.id ≤ b.id)
  forwardLoopPicks draws sorted.length 0 sorted

/-- The sum of the clamped weights. -/
def totalWeight (servers : List ForwardServer) : Int :=
  (servers.map ForwardServer.ticketWeight).sum

/-- The ticket lies in the weight interval of the picked server. -/
structure Pick.Falls (p : Pick) : Prop where
  total : p.total = totalWeight p.servers
  nonempty : 0 < p.total
  bound : p.total < 2 ^ 63
  drawn : 0 ≤ p.ticket ∧ p.ticket < p.total
  inside : ∃ f, p.server = some f ∧ totalWeight (p.servers.take p.selected) ≤ p.ticket ∧
    p.ticket < totalWeight (p.servers.take p.selected) + f.ticketWeight

/-- The columns of type `i32`. -/
def ForwardServer.FitsI32 (f : ForwardServer) : Prop :=
  (-2 ^ 31 ≤ f.priority ∧ f.priority < 2 ^ 31) ∧ -2 ^ 31 ≤ f.weight ∧ f.weight < 2 ^ 31

/-! ## Sums -/

theorem i64_of_bounds {n : Int} (hlow : -2 ^ 63 ≤ n) (hhigh : n < 2 ^ 63) : i64 n = some n :=
  if_pos ⟨hlow, hhigh⟩

theorem i64_eq_some {n m : Int} (h : i64 n = some m) : m = n ∧ n < 2 ^ 63 := by
  unfold i64 at h
  split at h
  · next hbounds => exact ⟨(Option.some.inj h).symm, hbounds.2⟩
  · cases h

theorem ticketWeight_pos (f : ForwardServer) : 0 < f.ticketWeight := by
  unfold ForwardServer.ticketWeight
  omega

@[simp] theorem totalWeight_nil : totalWeight [] = 0 := rfl

@[simp] theorem totalWeight_cons (f : ForwardServer) (servers : List ForwardServer) :
    totalWeight (f :: servers) = f.ticketWeight + totalWeight servers := rfl

theorem totalWeight_nonneg (servers : List ForwardServer) : 0 ≤ totalWeight servers := by
  induction servers with
  | nil => exact Int.le_refl 0
  | cons f servers ih =>
      have hpos := ticketWeight_pos f
      rw [totalWeight_cons]
      omega

theorem totalWeight_perm {servers servers' : List ForwardServer} (h : servers ~ servers') :
    totalWeight servers = totalWeight servers' := (h.map _).sum_eq

/-- Every group weighs at most as much as all servers. -/
theorem totalWeight_sublist {servers servers' : List ForwardServer}
    (h : servers.Sublist servers') : totalWeight servers ≤ totalWeight servers' := by
  induction h with
  | slnil => exact Int.le_refl _
  | cons f _ ih =>
      have hpos := ticketWeight_pos f
      rw [totalWeight_cons]
      omega
  | cons_cons f _ ih =>
      rw [totalWeight_cons, totalWeight_cons]
      omega

/-- **The sum overflows exactly when it is too large.** -/
theorem sumTicketWeights_of_lt {acc : Int} {servers : List ForwardServer} (hacc : 0 ≤ acc)
    (h : acc + totalWeight servers < 2 ^ 63) :
    sumTicketWeights acc servers = some (acc + totalWeight servers) := by
  induction servers generalizing acc with
  | nil => simp [sumTicketWeights]
  | cons f servers ih =>
      have hpos := ticketWeight_pos f
      have hrest := totalWeight_nonneg servers
      rw [totalWeight_cons] at h ⊢
      have hstep : i64 (acc + f.ticketWeight) = some (acc + f.ticketWeight) :=
        i64_of_bounds (by omega) (by omega)
      rw [sumTicketWeights, hstep, Option.bind_eq_bind, Option.bind_some,
        ih (by omega) (by omega), Int.add_assoc]

theorem sumTicketWeights_eq_some {acc total : Int} {servers : List ForwardServer}
    (hacc : acc < 2 ^ 63) (h : sumTicketWeights acc servers = some total) :
    acc + totalWeight servers < 2 ^ 63 := by
  induction servers generalizing acc with
  | nil => simpa using hacc
  | cons f servers ih =>
      obtain ⟨next, hnext, hsum⟩ := Option.bind_eq_some_iff.mp h
      obtain ⟨rfl, hbound⟩ := i64_eq_some hnext
      have hrest := ih hbound hsum
      rw [totalWeight_cons]
      omega

/-! ## One round -/

/-- **The countdown** ends at the server in whose interval the ticket lies. -/
theorem countDown_falls {servers : List ForwardServer} (ticket : Int) (index : Nat)
    (hlow : 0 ≤ ticket) (hhigh : ticket < totalWeight servers)
    (hbound : totalWeight servers < 2 ^ 63) :
    ∃ i f, countDown ticket index servers = some (index + i) ∧
      selectIndex ticket index servers = index + i ∧ servers[i]? = some f ∧
      totalWeight (servers.take i) ≤ ticket ∧
      ticket < totalWeight (servers.take i) + f.ticketWeight := by
  induction servers generalizing ticket index with
  | nil =>
      rw [totalWeight_nil] at hhigh
      omega
  | cons f servers ih =>
      have hpos := ticketWeight_pos f
      have hrest := totalWeight_nonneg servers
      rw [totalWeight_cons] at hhigh hbound
      have hstep : i64 (ticket - f.ticketWeight) = some (ticket - f.ticketWeight) :=
        i64_of_bounds (by omega) (by omega)
      by_cases hfalls : ticket - f.ticketWeight < 0
      · refine ⟨0, f, ?_, ?_, rfl, hlow, ?_⟩
        · rw [countDown, hstep, Option.bind_eq_bind, Option.bind_some, if_pos hfalls]
          rfl
        · rw [selectIndex, if_pos hfalls]
          rfl
        · simp only [List.take_zero, totalWeight_nil]
          omega
      · obtain ⟨i, g, hcount, hselect, hget, hbelow, habove⟩ :=
          ih (ticket - f.ticketWeight) (index + 1) (by omega) (by omega) (by omega)
        refine ⟨i + 1, g, ?_, ?_, hget, ?_, ?_⟩
        · rw [countDown, hstep, Option.bind_eq_bind, Option.bind_some, if_neg hfalls, hcount,
            Nat.add_assoc, Nat.add_comm 1 i]
        · rw [selectIndex, if_neg hfalls, hselect, Nat.add_assoc, Nat.add_comm 1 i]
        · rw [List.take_succ_cons, totalWeight_cons]
          omega
        · rw [List.take_succ_cons, totalWeight_cons]
          omega

/-- **One round** of the loop succeeds and picks the server the ticket points to. -/
theorem pickServer_falls (draw : Nat) {servers : List ForwardServer} (hne : servers ≠ [])
    (hbound : totalWeight servers < 2 ^ 63) :
    ∃ p, pickServer draw servers = some p ∧ p.Falls ∧ p.servers = servers ∧
      p.selected = selectIndex (draw % totalWeight servers) 0 servers ∧
      p.selected < servers.length := by
  have hpos : 0 < totalWeight servers := by
    obtain ⟨f, rest, rfl⟩ := List.exists_cons_of_ne_nil hne
    have hf := ticketWeight_pos f
    have hrest := totalWeight_nonneg rest
    rw [totalWeight_cons]
    omega
  have hsum : sumTicketWeights 0 servers = some (totalWeight servers) := by
    have hsum : sumTicketWeights 0 servers = some (0 + totalWeight servers) :=
      sumTicketWeights_of_lt (Int.le_refl 0) (by omega)
    rwa [Int.zero_add] at hsum
  have hlow : 0 ≤ (draw : Int) % totalWeight servers := Int.emod_nonneg _ (by omega)
  have hhigh : (draw : Int) % totalWeight servers < totalWeight servers :=
    Int.emod_lt_of_pos _ hpos
  obtain ⟨i, f, hcount, hselect, hget, hbelow, habove⟩ := countDown_falls _ 0 hlow hhigh hbound
  rw [Nat.zero_add] at hcount hselect
  have hlt : i < servers.length := (List.getElem?_eq_some_iff.mp hget).1
  refine ⟨⟨servers, totalWeight servers, draw % totalWeight servers, i⟩, ?_,
    ⟨rfl, hpos, hbound, ⟨hlow, hhigh⟩, f, hget, hbelow, habove⟩, rfl, hselect.symm, hlt⟩
  simp only [pickServer, hsum, hcount, hpos, hlt, Option.bind_eq_bind, Option.bind_some, guard,
    if_true, Option.pure_def]

theorem pickServer_eq_some {draw : Nat} {servers : List ForwardServer} {p : Pick}
    (h : pickServer draw servers = some p) : totalWeight servers < 2 ^ 63 := by
  obtain ⟨total, hsum, -⟩ := Option.bind_eq_some_iff.mp h
  have hbound := sumTicketWeights_eq_some (by decide) hsum
  rwa [Int.zero_add] at hbound

/-! ## One group -/

/-- What the rounds leave. -/
def orderOf (picks : List Pick) : List ForwardServer := picks.filterMap Pick.server

/-- **The loop over one group** takes out every server once. -/
theorem groupPicks_spec (draws : Nat → Nat) {n : Nat} (k : Nat)
    {servers : List ForwardServer} (hn : servers.length = n) (hbound : totalWeight servers < 2 ^ 63) :
    ∃ picks, groupPicks draws n k servers = some picks ∧ (∀ p ∈ picks, p.Falls) ∧
      orderOf picks = weightedGroupLoop draws n k servers ∧ orderOf picks ~ servers := by
  induction n generalizing k servers with
  | zero =>
      obtain rfl := List.length_eq_zero_iff.mp hn
      exact ⟨[], rfl, fun p hp => (List.not_mem_nil hp).elim, rfl, Perm.refl []⟩
  | succ n ih =>
      obtain ⟨f, rest, rfl⟩ := List.exists_cons_of_length_eq_add_one hn
      obtain ⟨p, hpick, hfalls, hservers, hselected, hlt⟩ :=
        pickServer_falls (draws k) (List.cons_ne_nil f rest) hbound
      -- the rest of the loop, without the server that was picked
      have hlength : ((f :: rest).eraseIdx p.selected).length = n := by
        rw [List.length_eraseIdx_of_lt hlt, hn]
        rfl
      have hlighter : totalWeight ((f :: rest).eraseIdx p.selected) < 2 ^ 63 :=
        Int.lt_of_le_of_lt (totalWeight_sublist (List.eraseIdx_sublist ..)) hbound
      obtain ⟨picks, hpicks, hall, horder, hperm⟩ := ih (k + 1) hlength hlighter
      have hserver : p.server = some ((f :: rest)[p.selected]) := by
        rw [Pick.server, hservers]
        exact List.getElem?_eq_getElem hlt
      refine ⟨p :: picks, ?_, ?_, ?_, ?_⟩
      · simp only [groupPicks, hpick, hpicks, Option.bind_eq_bind, Option.bind_some]
      · intro q hq
        rcases List.mem_cons.mp hq with rfl | hq
        · exact hfalls
        · exact hall q hq
      · have hget : (f :: rest)[selectIndex (draws k % totalWeight (f :: rest)) 0
            (f :: rest)]? = some ((f :: rest)[p.selected]) := by
          rw [← hselected]
          exact List.getElem?_eq_getElem hlt
        rw [orderOf, List.filterMap_cons_some hserver, weightedGroupLoop]
        simp only [← totalWeight.eq_1]
        rw [hget, ← hselected, ← horder]
        rfl
      · rw [orderOf, List.filterMap_cons_some hserver]
        exact (hperm.cons _).trans (List.getElem_cons_eraseIdx_perm hlt)

/-- A group that is too heavy makes the sum overflow. -/
theorem groupPicks_eq_some {draws : Nat → Nat} {n k : Nat} {servers : List ForwardServer}
    {picks : List Pick} (h : groupPicks draws n k servers = some picks) :
    totalWeight servers < 2 ^ 63 := by
  cases servers with
  | nil => decide
  | cons f rest =>
      cases n with
      | zero => cases h
      | succ n =>
          obtain ⟨p, hpick, -⟩ := Option.bind_eq_some_iff.mp h
          exact pickServer_eq_some hpick

/-! ## All groups -/

/-- Priorities do not decrease. -/
abbrev ByPriority (servers : List ForwardServer) : Prop :=
  servers.Pairwise fun f g => f.priority ≤ g.priority

/-- Servers of one priority, before servers of higher ones. -/
theorem byPriority_append {group others : List ForwardServer} (priority : Int)
    (hgroup : ∀ f ∈ group, f.priority = priority) (hothers : ByPriority others)
    (hle : ∀ f ∈ others, priority ≤ f.priority) : ByPriority (group ++ others) := by
  refine List.pairwise_append.mpr ⟨?_, hothers, ?_⟩
  · refine List.pairwise_of_forall_mem_list fun f hf g hg => ?_
    rw [hgroup f hf, hgroup g hg]
  · intro f hf g hg
    rw [hgroup f hf]
    exact hle g hg

/-- **The loop over the groups.** -/
theorem forwardLoopPicks_spec (draws : Nat → Nat) {n : Nat} (k : Nat)
    {servers : List ForwardServer} (hn : servers.length ≤ n) (hsorted : ByPriority servers)
    (hbound : totalWeight servers < 2 ^ 63) :
    ∃ picks, forwardLoopPicks draws n k servers = some picks ∧ (∀ p ∈ picks, p.Falls) ∧
      orderOf picks = weightedForwardLoop draws n k servers ∧ orderOf picks ~ servers ∧
      ByPriority (orderOf picks) := by
  induction n generalizing k servers with
  | zero =>
      obtain rfl := List.length_eq_zero_iff.mp (Nat.le_zero.mp hn)
      exact ⟨[], rfl, fun p hp => (List.not_mem_nil hp).elim, rfl, Perm.refl [], Pairwise.nil⟩
  | succ n ih =>
      cases servers with
      | nil =>
          exact ⟨[], rfl, fun p hp => (List.not_mem_nil hp).elim, rfl, Perm.refl [],
            Pairwise.nil⟩
      | cons f rest =>
          let same : ForwardServer → Bool := fun g => g.priority = f.priority
          have hsplit : rest.takeWhile same ++ rest.dropWhile same = rest :=
            List.takeWhile_append_dropWhile
          obtain ⟨hfirst, hrest⟩ := List.pairwise_cons.mp hsorted
          have hdropped : (rest.dropWhile same).length ≤ n :=
            Nat.le_trans (List.dropWhile_sublist same).length_le (Nat.le_of_succ_le_succ hn)
          have hgroupBound : totalWeight (f :: rest.takeWhile same) < 2 ^ 63 :=
            Int.lt_of_le_of_lt
              (totalWeight_sublist ((List.takeWhile_sublist same).cons_cons f)) hbound
          have hothersBound : totalWeight (rest.dropWhile same) < 2 ^ 63 :=
            Int.lt_of_le_of_lt
              (totalWeight_sublist ((List.dropWhile_sublist same).cons f)) hbound
          obtain ⟨picks, hpicks, hall, horder, hperm⟩ :=
            groupPicks_spec draws k rfl hgroupBound
          obtain ⟨others, hothers, hallOthers, horderOthers, hpermOthers, hsortedOthers⟩ :=
            ih (k + (f :: rest.takeWhile same).length) hdropped
              (hrest.sublist (List.dropWhile_sublist same)) hothersBound
          have happend : orderOf (picks ++ others) = orderOf picks ++ orderOf others :=
            List.filterMap_append
          refine ⟨picks ++ others, ?_, ?_, ?_, ?_, ?_⟩
          · show (groupPicks draws (f :: rest.takeWhile same).length k
              (f :: rest.takeWhile same)).bind _ = _
            rw [hpicks, Option.bind_some]
            show (forwardLoopPicks draws n (k + (f :: rest.takeWhile same).length)
              (rest.dropWhile same)).bind _ = _
            rw [hothers, Option.bind_some]
          · intro p hp
            rcases List.mem_append.mp hp with hp | hp
            · exact hall p hp
            · exact hallOthers p hp
          · rw [happend, horder, horderOthers]
            rfl
          · rw [happend]
            refine (hperm.append hpermOthers).trans ?_
            rw [List.cons_append, hsplit]
          · rw [happend]
            refine byPriority_append f.priority (fun g hg => ?_) hsortedOthers
              fun g hg => ?_
            · rcases List.mem_cons.mp (hperm.mem_iff.mp hg) with rfl | hg
              · rfl
              · have hsame : same g = true := List.mem_takeWhile_imp hg
                exact of_decide_eq_true hsame
            · exact hfirst g ((List.dropWhile_sublist same).mem (hpermOthers.mem_iff.mp hg))

/-- The order of the sort. -/
abbrev sortServers (servers : List ForwardServer) : List ForwardServer :=
  servers.insertionSort fun a b =>
    a.priority < b.priority ∨ (a.priority = b.priority ∧ a.id ≤ b.id)

theorem byPriority_sortServers (servers : List ForwardServer) :
    ByPriority (sortServers servers) := by
  have htotal : Std.Total fun a b : ForwardServer =>
      a.priority < b.priority ∨ (a.priority = b.priority ∧ a.id ≤ b.id) := ⟨fun a b => by omega⟩
  have htrans : IsTrans ForwardServer fun a b =>
      a.priority < b.priority ∨ (a.priority = b.priority ∧ a.id ≤ b.id) :=
    ⟨fun a b c => by omega⟩
  refine (List.pairwise_insertionSort _ servers).imp fun h => ?_
  omega

/-- The weights of `i32` columns. -/
theorem totalWeight_le {servers : List ForwardServer} (h : ∀ f ∈ servers, f.FitsI32) :
    totalWeight servers ≤ servers.length * (2 ^ 31 - 1) := by
  induction servers with
  | nil => exact Int.le_refl _
  | cons f rest ih =>
      have hf : f.ticketWeight ≤ 2 ^ 31 - 1 := by
        obtain ⟨-, -, hweight⟩ := h f List.mem_cons_self
        unfold ForwardServer.ticketWeight
        omega
      have hrest := ih fun g hg => h g (List.mem_cons_of_mem f hg)
      rw [totalWeight_cons, List.length_cons]
      push_cast
      omega

/-- **The weighted shuffle is correct** for up to 2^32 servers of any `i32` priorities and
weights, whatever tickets are drawn: no range is empty and no sum overflows, every ticket
lies in the weight interval of the server that is picked, the rounds yield the order, and
the order is a permutation of the servers along which priorities do not decrease. -/
theorem weightedForwardOrder_correct (draws : Nat → Nat) (servers : List ForwardServer)
    (hi32 : ∀ f ∈ servers, f.FitsI32) (hlength : servers.length ≤ 2 ^ 32) :
    ∃ picks, weightedForwardPicks draws servers = some picks ∧ (∀ p ∈ picks, p.Falls) ∧
      picks.filterMap Pick.server = weightedForwardOrder draws servers ∧
      weightedForwardOrder draws servers ~ servers ∧
      (weightedForwardOrder draws servers).Pairwise fun f g => f.priority ≤ g.priority := by
  have hperm : sortServers servers ~ servers := List.perm_insertionSort _ servers
  have hbound : totalWeight (sortServers servers) < 2 ^ 63 := by
    have hle := totalWeight_le hi32
    rw [totalWeight_perm hperm]
    omega
  obtain ⟨picks, hpicks, hall, horder, hsame, hsorted⟩ := forwardLoopPicks_spec draws 0
    (Nat.le_refl (sortServers servers).length) (byPriority_sortServers servers) hbound
  have horder' : orderOf picks = weightedForwardOrder draws servers := horder
  refine ⟨picks, hpicks, hall, horder', ?_, ?_⟩
  · rw [← horder']
    exact hsame.trans hperm
  · rw [← horder']
    exact hsorted

/-- Two servers of different priority and one with a negative weight. -/
def threeServers : List ForwardServer :=
  [⟨1, .remote, .authlibInjector, true, 5, 10, false⟩,
    ⟨2, .remote, .authlibInjector, true, 0, -3, false⟩,
    ⟨3, .remote, .authlibInjector, true, 5, 2147483647, false⟩]

theorem threeServers_correct :
    ∃ picks, weightedForwardPicks (fun k => 7 * k) threeServers = some picks ∧
      (∀ p ∈ picks, p.Falls) ∧
      picks.filterMap Pick.server = weightedForwardOrder (fun k => 7 * k) threeServers ∧
      weightedForwardOrder (fun k => 7 * k) threeServers ~ threeServers ∧
      (weightedForwardOrder (fun k => 7 * k) threeServers).Pairwise
        fun f g => f.priority ≤ g.priority :=
  weightedForwardOrder_correct _ threeServers
    (by
      intro f hf
      simp only [threeServers, List.mem_cons, List.not_mem_nil, or_false] at hf
      rcases hf with rfl | rfl | rfl <;> exact ⟨⟨by decide, by decide⟩, by decide, by decide⟩)
    (by decide)

/-! ## More than 2^32 servers -/

/-- Servers of one priority form one group. -/
theorem weightedForwardPicks_replicate {draws : Nat → Nat} {n : Nat} {f : ForwardServer}
    {picks : List Pick}
    (h : weightedForwardPicks draws (List.replicate (n + 1) f) = some picks) :
    ((n : Int) + 1) * f.ticketWeight < 2 ^ 63 := by
  have hsorted : sortServers (List.replicate (n + 1) f) = List.replicate (n + 1) f :=
    List.perm_replicate.mp (List.perm_insertionSort _ _)
  have hgroup : f :: (List.replicate n f).takeWhile (fun g => g.priority = f.priority) =
      List.replicate (n + 1) f := by
    rw [List.replicate_succ, List.takeWhile_replicate]
    simp
  have hloop : forwardLoopPicks draws (List.replicate (n + 1) f).length 0
      (List.replicate (n + 1) f) = some picks := by
    have h' : forwardLoopPicks draws (sortServers (List.replicate (n + 1) f)).length 0
      (sortServers (List.replicate (n + 1) f)) = some picks := h
    rwa [hsorted] at h'
  rw [List.length_replicate, List.replicate_succ] at hloop
  obtain ⟨first, hfirst, -⟩ := Option.bind_eq_some_iff.mp hloop
  rw [hgroup] at hfirst
  have hbound := groupPicks_eq_some hfirst
  have hsum : totalWeight (List.replicate (n + 1) f) = ((n : Int) + 1) * f.ticketWeight := by
    rw [totalWeight, List.map_replicate, List.sum_replicate, nsmul_eq_mul]
    push_cast
    rfl
  rwa [hsum] at hbound

/-- A list of servers whose weights do not fit an `i64` together. -/
theorem weightedForwardOrder_overflows :
    ¬ ∀ (draws : Nat → Nat) (servers : List ForwardServer), (∀ f ∈ servers, f.FitsI32) →
      ∃ picks, weightedForwardPicks draws servers = some picks := by
  intro h
  let f : ForwardServer := ⟨1, .remote, .authlibInjector, true, 0, 2147483647, false⟩
  obtain ⟨picks, hpicks⟩ := h (fun _ => 0) (List.replicate (2 ^ 32 + 2 + 1) f) fun g hg => by
    rw [List.eq_of_mem_replicate hg]
    exact ⟨⟨by decide, by decide⟩, by decide, by decide⟩
  have hsum := weightedForwardPicks_replicate hpicks
  have hweight : f.ticketWeight = 2147483647 := rfl
  rw [hweight] at hsum
  norm_num at hsum

end AsterYggdrasil
