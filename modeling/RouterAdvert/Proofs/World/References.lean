import RouterAdvert.Proofs.World.Calls
import RouterAdvert.Proofs.World.Handles

/-!
# References

A shared object is referred to by its names, by the sessions and sets that hold it, and, if it is a
session, by its provider. `refs_eq` adds these up in one way for all kinds of objects, so that it is
enough to know what each holder takes and gives up.
-/

namespace RouterAdvert

inductive Ref
  | session (id : SessionId)
  | network (id : PrefixId)
  | loop (loop : EventLoop)
deriving DecidableEq

def Session.holdings (s : Session) : List Ref :=
  s.members.map .network ++ s.loop.toList.map .loop

namespace World

def refs (w : World) : Ref → Nat
  | .session id => w.sessionRefs id
  | .network id => w.prefixRefs id
  | .loop loop => w.loopRefs loop

def total (weight : Session → Nat) : List Session → Nat
  | [] => 0
  | s :: rest => weight s + total weight rest

/-- A weight of sessions, summed up over those that have not been released. -/
def tally (weight : Session → Nat) (w : World) : Nat := total weight w.liveSessions

def nameRefs (w : World) (r : Ref) : Nat :=
  w.sessionHandles.weigh (fun id => [Ref.session id].count r)
    + w.prefixHandles.weigh (fun id => [Ref.network id].count r)
    + w.loopHandles.weigh (fun loop => [Ref.loop loop].count r)
    + w.sets.weigh (fun members => (members.map Ref.network).count r)

/-- The references to a session by its provider, for a shared object of any kind. -/
def providerRefs (w : World) : Ref → Nat
  | .session id => if (w.session? id).any heldByProvider then 1 else 0
  | _ => 0

theorem total_append (weight : Session → Nat) (before after : List Session) :
    total weight (before ++ after) = total weight before + total weight after := by
  induction before with
  | nil => simp [total]
  | cons s rest ih =>
    rw [List.cons_append, total, total, ih]
    omega

private theorem total_set {places : List (Option Session)} {place : Nat} {s : Session}
    (h : places[place]? = some (some s)) (o : Option Session) (weight : Session → Nat) :
    total weight ((places.set place o).filterMap fun p => p) + weight s =
      total weight (places.filterMap fun p => p) + o.elim 0 weight := by
  induction places generalizing place with
  | nil => simp at h
  | cons first rest ih =>
    cases place with
    | zero =>
      cases h
      cases o with
      | none => simp [total, Nat.add_comm]
      | some t =>
        simp only [List.set_cons_zero, List.filterMap_cons, total, Option.elim_some]
        omega
    | succ place =>
      have hrest := ih (show rest[place]? = some (some s) by simpa using h)
      cases first with
      | none => simpa using hrest
      | some t =>
        simp only [List.set_cons_succ, List.filterMap_cons, total]
        omega

theorem tally_set {w w' : World} {id : SessionId} {s : Session} (h : w.session? id = some s)
    {o : Option Session} (hw : w'.sessions = w.sessions.set id o) (weight : Session → Nat) :
    tally weight w' + weight s = tally weight w + o.elim 0 weight := by
  rw [tally, tally, liveSessions, liveSessions, hw]
  exact total_set (session?_eq_some_iff.mp h) o weight

theorem tally_create {w w' : World} {made : Session} (hw : w'.sessions = w.sessions ++ [some made])
    (weight : Session → Nat) : tally weight w' = tally weight w + weight made := by
  rw [tally, tally, liveSessions, liveSessions, hw, List.filterMap_append, total_append]
  rfl

theorem tally_of_sessions_eq {w w' : World} (hw : w'.sessions = w.sessions)
    (weight : Session → Nat) : tally weight w' = tally weight w := by
  rw [tally, tally, liveSessions, liveSessions, hw]

end World

@[simp] theorem count_map_network (members : PrefixSet) (p : PrefixId) :
    (members.map Ref.network).count (.network p) = members.count p := by
  induction members with
  | nil => rfl
  | cons first rest ih => simp [List.count_cons, ih]

namespace Session

@[simp] theorem count_session_holdings (s : Session) (id : SessionId) :
    s.holdings.count (.session id) = 0 := by
  simp [holdings, List.count_eq_zero]

@[simp] theorem count_network_holdings (s : Session) (p : PrefixId) :
    s.holdings.count (.network p) = s.members.count p := by
  rw [holdings, List.count_append, count_map_network]
  cases s.loop with
  | none => rfl
  | some loop => simp

@[simp] theorem count_loop_holdings (s : Session) (loop : EventLoop) :
    s.holdings.count (.loop loop) = if s.loop = some loop then 1 else 0 := by
  have hmembers : (s.members.map Ref.network).count (.loop loop) = 0 := by
    simp [List.count_eq_zero]
  rw [holdings, List.count_append, hmembers]
  cases s.loop with
  | none => rfl
  | some found => simp [List.count_singleton]

end Session

namespace World

@[simp] theorem tally_zero (w : World) : tally (fun _ => 0) w = 0 := by
  unfold tally
  induction w.liveSessions with
  | nil => rfl
  | cons s rest ih => rw [total, ih]

theorem countP_eq_total (p : Session → Bool) (xs : List Session) :
    xs.countP p = total (fun s => if p s then 1 else 0) xs := by
  induction xs with
  | nil => rfl
  | cons first rest ih =>
    rw [List.countP_cons, ih, total]
    omega

theorem count_members_sessions (w : World) (p : PrefixId) :
    (w.liveSessions.flatMap (·.members)).count p = tally (fun s => s.members.count p) w := by
  unfold tally
  induction w.liveSessions with
  | nil => rfl
  | cons s rest ih => rw [List.flatMap_cons, List.count_append, ih, total]

theorem count_members_sets (w : World) (p : PrefixId) :
    (w.sets.flatMap (·.2)).count p = w.sets.weigh (fun members => members.count p) := by
  induction w.sets with
  | nil => rfl
  | cons entry rest ih => rw [List.flatMap_cons, List.count_append, ih, Handles.weigh]

theorem refs_eq (w : World) (r : Ref) :
    w.refs r = w.nameRefs r + w.providerRefs r + tally (fun s => s.holdings.count r) w := by
  have hsets : ∀ (members : PrefixSet) {r : Ref}, (∀ p, r ≠ .network p) →
      (members.map Ref.network).count r = 0 := by
    intro members r hr
    rw [List.count_eq_zero, List.mem_map]
    rintro ⟨p, -, rfl⟩
    exact hr p rfl
  cases r with
  | session id =>
    simp only [refs, sessionRefs, nameRefs, providerRefs, Handles.count_eq_weigh,
      List.count_singleton, hsets _ (show ∀ p, Ref.session id ≠ .network p by simp)]
    simp
  | network p =>
    simp only [refs, prefixRefs, nameRefs, providerRefs, Handles.count_eq_weigh,
      List.count_singleton, count_members_sessions, count_members_sets]
    simp
    omega
  | loop loop =>
    simp only [refs, loopRefs, nameRefs, providerRefs, Handles.count_eq_weigh,
      List.count_singleton, hsets _ (show ∀ p, Ref.loop loop ≠ .network p by simp), countP_eq_total]
    simp [tally]

end World

end RouterAdvert
