import ForbiddenHosts.Proofs.Json.Grammar
import Mathlib.Data.List.Forall2

/-!
# Which values stand for lists of hostnames

A value **holds** a hostname (`Value.Holds`) if it is an object with exactly one member `hostname`,
whose value is a string, or an array of exactly one string.  It **lists** hostnames (`Value.Lists`)
if it is an array each item of which holds one of them, in their order.

The same is said by functions that a reader can be compared with.  `afterMember` is what one member
of an object does to the hostname found so far, and `hostname?` and `hostnames?` are what a value
holds and lists, if it does (`hostname?_eq_some_iff`, `hostnames?_eq_some_iff`).  They do not depend
on the order of the members of objects: members that are not the hostname change nothing, and a
second hostname is refused on whichever side it comes (`Alike.hostnames?_eq`).
-/
namespace ForbiddenHosts.Json

/-- A value holds a hostname. -/
inductive Value.Holds : Value → String → Prop where
  /-- It is an object with exactly one member `hostname`, whose value is a string. -/
  | member {before after : List (String × Value)} {hostname : String}
      (others : ∀ member ∈ before ++ after, member.1 ≠ "hostname") :
      Value.Holds (.object (before ++ ("hostname", .string hostname) :: after)) hostname
  /-- It is an array of exactly one string. -/
  | item {hostname : String} : Value.Holds (.array [.string hostname]) hostname

/-- A value lists hostnames: it is an array of values that hold them, one after the other. -/
def Value.Lists (value : Value) (hostnames : List String) : Prop :=
  ∃ items, value = .array items ∧ List.Forall₂ Value.Holds items hostnames

/-! ### Members -/

/-- The string that a value is, if it is one. -/
def Value.string? : Value → Option String
  | string s => some s
  | _ => none

theorem Value.string?_eq_some_iff {value : Value} {s : String} :
    value.string? = some s ↔ value = .string s := by
  cases value <;> simp [string?]

/-- The hostname that is known after a member, from the one that was known before it; `none` if
there cannot be such a member. -/
def afterMember (hostname : Option String) (member : String × Value) : Option (Option String) :=
  if member.1 = "hostname" then
    match hostname, member.2.string? with
    | none, some s => some (some s)
    | _, _ => none
  else some hostname

section Members

variable {hostname : Option String} {s : String} {members : List (String × Value)}

theorem afterMember_other {member : String × Value} (h : member.1 ≠ "hostname") :
    afterMember hostname member = some hostname := if_neg h

theorem afterMember_hostname (value : Value) :
    afterMember none ("hostname", value) = value.string?.map some := by
  unfold afterMember
  rw [if_pos rfl]
  cases value.string? <;> rfl

theorem afterMember_second (value : Value) :
    afterMember (some s) ("hostname", value) = none := rfl

/-- Other members leave the hostname as it is. -/
theorem foldlM_others (h : ∀ member ∈ members, member.1 ≠ "hostname") :
    members.foldlM afterMember hostname = some hostname := by
  induction members with
  | nil => rfl
  | cons member members ih =>
    rw [List.foldlM_cons, afterMember_other (h member (List.mem_cons_self ..))]
    exact ih fun m hm => h m (List.mem_cons_of_mem _ hm)

/-- Once the hostname is known, all members must be others. -/
theorem foldlM_known {found : Option String}
    (h : members.foldlM afterMember (some s) = some found) :
    found = some s ∧ ∀ member ∈ members, member.1 ≠ "hostname" := by
  induction members with
  | nil => exact ⟨(Option.some.inj h).symm, fun _ hm => by cases hm⟩
  | cons member members ih =>
    obtain ⟨name, value⟩ := member
    rw [List.foldlM_cons] at h
    by_cases hname : name = "hostname"
    · rw [hname, afterMember_second] at h
      cases h
    · rw [afterMember_other hname] at h
      obtain ⟨hfound, hothers⟩ := ih h
      exact ⟨hfound, List.forall_mem_cons.mpr ⟨hname, hothers⟩⟩

/-- **The members of an object give a hostname if exactly one of them is it.** -/
theorem foldlM_eq_some_iff :
    members.foldlM afterMember none = some (some s) ↔
      ∃ before after, members = before ++ ("hostname", .string s) :: after ∧
        ∀ member ∈ before ++ after, member.1 ≠ "hostname" := by
  constructor
  · intro h
    induction members with
    | nil => cases h
    | cons member members ih =>
      obtain ⟨name, value⟩ := member
      rw [List.foldlM_cons] at h
      by_cases hname : name = "hostname"
      · subst hname
        rw [afterMember_hostname] at h
        cases hvalue : value.string? with
        | none =>
          rw [hvalue] at h
          cases h
        | some t =>
          rw [hvalue] at h
          obtain ⟨hst, hothers⟩ := foldlM_known h
          cases hst
          rw [Value.string?_eq_some_iff.mp hvalue]
          exact ⟨[], members, rfl, hothers⟩
      · rw [afterMember_other hname] at h
        obtain ⟨before, after, rfl, hothers⟩ := ih h
        exact ⟨(name, value) :: before, after, rfl, List.forall_mem_cons.mpr ⟨hname, hothers⟩⟩
  · rintro ⟨before, after, rfl, hothers⟩
    have hbefore : before.foldlM afterMember none = some none :=
      foldlM_others fun m hm => hothers m (List.mem_append_left _ hm)
    have hafter : after.foldlM afterMember (some s) = some (some s) :=
      foldlM_others fun m hm => hothers m (List.mem_append_right _ hm)
    rw [List.foldlM_append, hbefore]
    exact hafter

end Members

/-! ### Values -/

/-- The hostname that a value holds, if it holds one. -/
def hostname? : Value → Option String
  | .object members => (members.foldlM afterMember none).join
  | .array [item] => item.string?
  | _ => none

/-- The hostnames that a value lists, if it lists any. -/
def hostnames? : Value → Option (List String)
  | .array items => items.mapM hostname?
  | _ => none

theorem hostname?_eq_some_iff {value : Value} {s : String} :
    hostname? value = some s ↔ value.Holds s := by
  constructor
  · intro h
    match value, h with
    | .object members, h =>
      obtain ⟨before, after, rfl, hothers⟩ := foldlM_eq_some_iff.mp (Option.join_eq_some_iff.mp h)
      exact .member hothers
    | .array [item], h =>
      rw [Value.string?_eq_some_iff.mp h]
      exact .item
  · intro h
    cases h with
    | member others =>
      exact Option.join_eq_some_iff.mpr (foldlM_eq_some_iff.mpr ⟨_, _, rfl, others⟩)
    | item => rfl

theorem mapM_eq_some_iff {α β : Type} {f : α → Option β} {xs : List α} {ys : List β} :
    xs.mapM f = some ys ↔ List.Forall₂ (fun x y => f x = some y) xs ys := by
  induction xs generalizing ys with
  | nil => cases ys <;> simp
  | cons x xs ih =>
    rw [List.mapM_cons]
    cases hx : f x with
    | none => cases ys <;> simp [hx]
    | some y => cases hxs : xs.mapM f <;> cases ys <;> simp [hx, hxs, ← ih]

theorem hostnames?_eq_some_iff {value : Value} {hostnames : List String} :
    hostnames? value = some hostnames ↔ value.Lists hostnames := by
  cases value with
  | array items => simp [hostnames?, Value.Lists, mapM_eq_some_iff, hostname?_eq_some_iff]
  | _ => simp [hostnames?, Value.Lists]

/-! ### The order of members -/

theorem Alike.string?_eq {value value' : Value} (h : Alike value value') :
    value.string? = value'.string? := by
  cases h <;> rfl

theorem Alike.afterMember_eq {value value' : Value} (h : Alike value value')
    (hostname : Option String) (name : String) :
    afterMember hostname (name, value) = afterMember hostname (name, value') := by
  unfold afterMember
  rw [h.string?_eq]

/-- Two members, in whichever order, do the same. -/
theorem afterMember_comm (hostname : Option String) (first second : String × Value) :
    (afterMember hostname first).bind (afterMember · second) =
      (afterMember hostname second).bind (afterMember · first) := by
  by_cases hfirst : first.1 = "hostname"
  · by_cases hsecond : second.1 = "hostname"
    · -- Of two hostnames, the one behind the other is refused.
      have hrefused : ∀ a b : String × Value, a.1 = "hostname" → b.1 = "hostname" →
          (afterMember hostname a).bind (afterMember · b) = none := by
        rintro ⟨_, value⟩ ⟨_, value'⟩ rfl rfl
        cases hostname with
        | none => rw [afterMember_hostname]; cases value.string? <;> rfl
        | some s => rfl
      rw [hrefused _ _ hfirst hsecond, hrefused _ _ hsecond hfirst]
    · rw [afterMember_other hsecond, Option.bind_some]
      cases afterMember hostname first <;> simp [afterMember_other hsecond]
  · rw [afterMember_other hfirst, Option.bind_some]
    cases afterMember hostname second <;> simp [afterMember_other hfirst]

theorem AlikeMembers.foldlM_eq : {members members' : List (String × Value)} →
    AlikeMembers members members' → (hostname : Option String) →
    members.foldlM afterMember hostname = members'.foldlM afterMember hostname
  | _, _, .nil, _ => rfl
  | _, _, .cons head tail, hostname => by
    rw [List.foldlM_cons, List.foldlM_cons, head.afterMember_eq]
    exact congrArg _ (funext tail.foldlM_eq)
  | _, _, .swap first second members, hostname => by
    simp only [List.foldlM_cons, ← bind_assoc]
    exact congrArg (· >>= _) (afterMember_comm hostname first second)
  | _, _, .trans first second, hostname =>
    (first.foldlM_eq hostname).trans (second.foldlM_eq hostname)

theorem Alike.hostname?_eq {value value' : Value} (h : Alike value value') :
    hostname? value = hostname? value' := by
  cases h with
  | same => rfl
  | array alike =>
    cases alike with
    | nil => rfl
    | cons head tail =>
      cases tail with
      | nil => exact head.string?_eq
      | cons => rfl
  | object alike => exact congrArg Option.join (alike.foldlM_eq none)

theorem AlikeItems.mapM_eq : {items items' : List Value} → AlikeItems items items' →
    items.mapM hostname? = items'.mapM hostname?
  | _, _, .nil => rfl
  | _, _, .cons head tail => by
    rw [List.mapM_cons, List.mapM_cons, head.hostname?_eq, tail.mapM_eq]

/-- **What a value lists does not depend on the order of members.** -/
theorem Alike.hostnames?_eq {value value' : Value} (h : Alike value value') :
    hostnames? value = hostnames? value' := by
  cases h with
  | same => rfl
  | array alike => exact alike.mapM_eq
  | object => rfl

end ForbiddenHosts.Json
