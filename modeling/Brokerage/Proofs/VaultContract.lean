import Brokerage.Proofs.Exchange
import Brokerage.Proofs.VaultAnswers
import Mathlib.Data.List.DropRight
import Mathlib.Data.List.Induction
import Mathlib.Data.List.Pairwise

/-!
The contract of a vault, over every run of it. A log has the requests that were made one after
another, each with the reply it was given. It tells which values were put under a name since the
name was last deleted, and which grants were made on it since they were last revoked; a vault that
began empty holds the last of these values, the number of them and of every actor the latest of its
grants, and nothing else.
-/

set_option autoImplicit false

namespace Brokerage.Vault

abbrev Log := List (Exchange Request.Reply)

/-- A vault answers so, and is left so. -/
def Step (v : Vault) (x : Exchange Request.Reply) (w : Vault) : Prop :=
  v.answer x.question = (x.reply, w)

/-- The number of the version that is under a name. -/
def version (v : Vault) (n : String) : Nat :=
  ((v.get? n).map Entry.version).getD 0

/-! ### What a log tells -/

namespace Request

/-- The value that a request puts under a name. -/
def value? (n : String) : Request → Option Json
  | .put name value => if name = n then some value else none
  | _ => none

/-- The permission that a request grants on a name. -/
def grant? (n : String) : Request → Option Permission
  | .addPermission name actor operations => if name = n then some ⟨actor, operations⟩ else none
  | _ => none

/-- Whether a request deletes a name. -/
def removes (n : String) : Request → Bool
  | .delete name => name = n
  | _ => false

/-- Whether a request takes all permissions from a name. -/
def revokes (n : String) : Request → Bool
  | .deletePermission name | .delete name => name = n
  | _ => false

end Request

/-- The requests of a log that succeeded. -/
def done (log : Log) : List Request :=
  log.filterMap fun x ↦
    match x.reply with
    | .ok _ => some x.question
    | .error _ => none

/-- The values put under a name since it was last deleted. -/
def valuesIn (log : Log) (n : String) : List Json :=
  ((done log).rtakeWhile fun q ↦ !q.removes n).filterMap (·.value? n)

/-- The permissions granted on a name since they were last taken from it. -/
def grantsIn (log : Log) (n : String) : List Permission :=
  ((done log).rtakeWhile fun q ↦ !q.revokes n).filterMap (·.grant? n)

/-- The grants after which there is none to the same actor, in their order. -/
def latestGrants (grants : List Permission) : List Permission :=
  grants.pwFilter fun p later ↦ p.actor ≠ later.actor

/-! ### The latest grants -/

theorem latestGrants_cons (first : Permission) (rest : List Permission) :
    latestGrants (first :: rest) =
      if ∀ later ∈ rest, first.actor ≠ later.actor then first :: latestGrants rest
      else latestGrants rest := by
  have hstays : (∀ later ∈ latestGrants rest, first.actor ≠ later.actor) ↔
      ∀ later ∈ rest, first.actor ≠ later.actor := by
    refine List.forall_mem_pwFilter (fun {x y z} hxz ↦ ?_) first rest
    by_contra! hsame
    exact hxz (hsame.1.trans hsame.2)
  split
  next hlater => exact List.pwFilter_cons_of_pos (hstays.2 hlater)
  next hlater => exact List.pwFilter_cons_of_neg fun hkept ↦ hlater (hstays.1 hkept)

/-- A grant to an actor takes the place of its earlier ones, at the end. -/
theorem latestGrants_concat (grants : List Permission) (p : Permission) :
    latestGrants (grants ++ [p]) = (latestGrants grants).filter (·.actor ≠ p.actor) ++ [p] := by
  induction grants with
  | nil => rfl
  | cons first rest ih =>
    have hlater : (∀ later ∈ rest ++ [p], first.actor ≠ later.actor) ↔
        (∀ later ∈ rest, first.actor ≠ later.actor) ∧ first.actor ≠ p.actor := by
      simp [or_imp, forall_and]
    rw [List.cons_append, latestGrants_cons, latestGrants_cons, ih, if_congr hlater rfl rfl]
    by_cases hp : first.actor = p.actor
    · rw [if_neg fun h ↦ h.2 hp]
      split
      next => rw [List.filter_cons_of_neg (by simpa using hp)]
      next => rfl
    · by_cases hrest : ∀ later ∈ rest, first.actor ≠ later.actor
      · rw [if_pos ⟨hrest, hp⟩, if_pos hrest, List.filter_cons_of_pos (by simpa using hp),
          List.cons_append]
      · rw [if_neg fun h ↦ hrest h.1, if_neg hrest]

theorem nodup_latestGrants (grants : List Permission) :
    ((latestGrants grants).map Permission.actor).Nodup :=
  List.pairwise_map.2 (List.pairwise_pwFilter grants)

/-- What an actor is granted among the latest grants is its latest grant. -/
theorem find?_latestGrants (grants : List Permission) (actor : String) :
    (latestGrants grants).find? (·.actor = actor) =
      grants.reverse.find? (·.actor = actor) := by
  induction grants using List.reverseRecOn with
  | nil => rfl
  | append_singleton grants p ih =>
    rw [latestGrants_concat, List.reverse_concat, List.find?_append]
    by_cases hp : p.actor = actor
    · have hearlier :
          ((latestGrants grants).filter (·.actor ≠ p.actor)).find? (·.actor = actor) = none := by
        simp [List.find?_eq_none, hp]
      rw [hearlier, List.find?_cons_of_pos (by simpa using hp),
        List.find?_cons_of_pos (by simpa using hp), Option.none_or]
    · have hearlier :
          ((latestGrants grants).filter (·.actor ≠ p.actor)).find? (·.actor = actor) =
            (latestGrants grants).find? (·.actor = actor) := by
        rw [List.find?_filter]
        congr 1
        grind
      rw [hearlier, ih, List.find?_cons_of_neg (by simpa using hp),
        List.find?_cons_of_neg (by simpa using hp), List.find?_nil, Option.or_none]

/-! ### Refusals -/

section Refusals

variable {v : Vault} {q : Request} {e : Error}

theorem onPresent_error_iff {name : String} {change : Entry → Vault} :
    (v.onPresent name change).1 = .error e ↔ v.get? name = none ∧ e = .notFound name := by
  cases hfound : v.get? name with
  | none => simp [onPresent_of_none hfound, eq_comm]
  | some entry => simp [onPresent_of_some hfound]

/-- A value can always be put; anything else is refused of a name that is absent, and only so. -/
theorem answer_error_iff :
    (v.answer q).1 = .error e ↔
      q.method ≠ .put ∧ v.get? q.name = none ∧ e = .notFound q.name := by
  cases q with
  | put name value => simp [answer, Request.method]
  | addPermission | deletePermission | delete =>
    simp [answer, Request.method, Request.name, onPresent_error_iff]

/-- A request that is refused changes nothing. -/
theorem answer_of_error (h : (v.answer q).1 = .error e) : (v.answer q).2 = v := by
  obtain ⟨hput, hfound, -⟩ := answer_error_iff.1 h
  cases q with
  | put name value => exact absurd rfl hput
  | addPermission | deletePermission | delete => exact congrArg Prod.snd (onPresent_of_none hfound)

theorem answer_put (v : Vault) (n : String) (value : Json) :
    (v.answer (.put n value)).1 = .ok s!"{n}@{v.version n + 1}" := by
  rw [answer, version]
  cases v.get? n <;> rfl

end Refusals

/-! ### One more request -/

section Concat

variable {log : Log} {x : Exchange Request.Reply} {q : Request} {n : String}

theorem done_concat_of_ok {answer : q.Answer} :
    done (log ++ [⟨q, .ok answer⟩]) = done log ++ [q] := by
  simp [done]

theorem done_concat_of_error {e : Error} : done (log ++ [⟨q, .error e⟩]) = done log := by
  simp [done]

theorem valuesIn_concat_of_ok {answer : q.Answer} :
    valuesIn (log ++ [⟨q, .ok answer⟩]) n =
      if q.removes n then [] else valuesIn log n ++ (q.value? n).toList := by
  rw [valuesIn, done_concat_of_ok, List.rtakeWhile_concat]
  cases hremoves : q.removes n <;> cases hvalue : q.value? n <;> simp [valuesIn, hvalue]

theorem grantsIn_concat_of_ok {answer : q.Answer} :
    grantsIn (log ++ [⟨q, .ok answer⟩]) n =
      if q.revokes n then [] else grantsIn log n ++ (q.grant? n).toList := by
  rw [grantsIn, done_concat_of_ok, List.rtakeWhile_concat]
  cases hrevokes : q.revokes n <;> cases hgrant : q.grant? n <;> simp [grantsIn, hgrant]

end Concat

section Step

variable {v w : Vault} {log : Log} {x : Exchange Request.Reply} {q : Request} {answer : q.Answer}

theorem get?_of_step (h : Step v x w) (n : String) :
    w.get? n = if x.question.name = n then x.question.effect (v.get? n) else v.get? n := by
  have hw : (v.answer x.question).2 = w := by rw [h]
  split
  next hn => rw [← hw, ← hn, get?_answer]
  next hn => rw [← hw, get?_answer_of_ne (Ne.symm hn)]

attribute [local simp] Request.name Request.effect Request.value? Request.grant? Request.removes
  Request.revokes written granted

theorem value?_of_step (h : Step v ⟨q, .ok answer⟩ w) (n : String) :
    w.value? n = if q.removes n then none else (q.value? n).or (v.value? n) := by
  rw [value?, get?_of_step h, value?]
  cases q with
  | put name value => by_cases hn : name = n <;> cases v.get? n <;> simp [hn]
  | addPermission name | deletePermission name | delete name =>
    by_cases hn : name = n <;> cases v.get? n <;> simp [hn]

theorem version_of_step (h : Step v ⟨q, .ok answer⟩ w) (n : String) :
    w.version n = if q.removes n then 0 else v.version n + (q.value? n).toList.length := by
  rw [version, get?_of_step h, version]
  cases q with
  | put name value => by_cases hn : name = n <;> cases v.get? n <;> simp [hn]
  | addPermission name | deletePermission name | delete name =>
    by_cases hn : name = n <;> cases v.get? n <;> simp [hn]

theorem permissions_of_step (h : Step v ⟨q, .ok answer⟩ w) (n : String) :
    w.permissions n =
      if q.revokes n then []
      else
        match q.grant? n with
        | some p => (v.permissions n).filter (·.actor ≠ p.actor) ++ [p]
        | none => v.permissions n := by
  rw [permissions, get?_of_step h, permissions]
  cases q with
  | put name | deletePermission name | delete name =>
    by_cases hn : name = n <;> cases v.get? n <;> simp [hn]
  | addPermission name actor operations =>
    -- the grant was not refused, so what it is about is there
    have hpresent : v.get? name ≠ none := by
      intro habsent
      have hrefused : (v.answer (.addPermission name actor operations)).1 =
          .error (.notFound name) :=
        answer_error_iff.2 ⟨nofun, habsent, rfl⟩
      rw [h] at hrefused
      cases hrefused
    by_cases hn : name = n
    · subst hn
      cases hfound : v.get? name with
      | none => exact absurd hfound hpresent
      | some entry => simp
    · simp [hn]

end Step

/-! ### Runs -/

/-- A vault holds what a log tells. -/
structure Holds (v : Vault) (log : Log) : Prop where
  value : ∀ n, v.value? n = (valuesIn log n).getLast?
  version : ∀ n, v.version n = (valuesIn log n).length
  permissions : ∀ n, v.permissions n = latestGrants (grantsIn log n)

theorem holds_empty : Holds empty [] :=
  ⟨fun _ ↦ rfl, fun _ ↦ rfl, fun _ ↦ rfl⟩

section Runs

variable {v w : Vault} {log : Log}

theorem Holds.present_iff (h : Holds v log) (n : String) :
    (v.get? n).isSome ↔ valuesIn log n ≠ [] := by
  have hvalue := h.value n
  rw [value?] at hvalue
  rw [← Option.isSome_map, hvalue, List.getLast?_isSome]

theorem Holds.step {x : Exchange Request.Reply} (h : Holds v log) (hstep : Step v x w) :
    Holds w (log ++ [x]) := by
  obtain ⟨q, reply⟩ := x
  cases reply with
  | error e =>
    have hw : w = v := by
      have := answer_of_error (congrArg Prod.fst hstep)
      rwa [hstep] at this
    subst hw
    exact ⟨fun n ↦ by rw [h.value, valuesIn, valuesIn, done_concat_of_error],
      fun n ↦ by rw [h.version, valuesIn, valuesIn, done_concat_of_error],
      fun n ↦ by rw [h.permissions, grantsIn, grantsIn, done_concat_of_error]⟩
  | ok answer =>
    refine ⟨fun n ↦ ?_, fun n ↦ ?_, fun n ↦ ?_⟩
    · rw [value?_of_step hstep, valuesIn_concat_of_ok, h.value]
      split
      · rfl
      · cases q.value? n <;> simp
    · rw [version_of_step hstep, valuesIn_concat_of_ok, h.version]
      split
      · rfl
      · rw [List.length_append]
    · rw [permissions_of_step hstep, grantsIn_concat_of_ok, h.permissions]
      split
      · rfl
      · cases q.grant? n with
        | none => simp
        | some p => exact (latestGrants_concat ..).symm

theorem holds_of_steps (hrun : Steps Step empty log v) : Holds v log := by
  induction log using List.reverseRecOn generalizing v with
  | nil =>
    rw [Steps.nil_iff.1 hrun]
    exact holds_empty
  | append_singleton log x ih =>
    obtain ⟨u, hbefore, hstep⟩ := Steps.concat_iff.1 hrun
    exact (ih hbefore).step hstep

end Runs

/-! ### The contract -/

/-- What a vault keeps to once the requests of a log have been made of it. -/
structure Contract (log : Log) (v : Vault) : Prop where
  /-- A name is there if a value has been put under it since it was last deleted. -/
  present : ∀ n, (v.get? n).isSome ↔ valuesIn log n ≠ []
  /-- What is there is the last of these values. -/
  value : ∀ n, v.value? n = (valuesIn log n).getLast?
  /-- A put is answered with the name and the number of values put since then, its own included. -/
  identifiers : ∀ before n value reply after, log = before ++ ⟨.put n value, reply⟩ :: after →
    reply = .ok s!"{n}@{(valuesIn before n).length + 1}"
  /-- What is permitted are the latest grants since the permissions were last taken away. -/
  permissions : ∀ n, v.permissions n = latestGrants (grantsIn log n)
  /-- No actor is named twice. -/
  actors : ∀ n, ((v.permissions n).map Permission.actor).Nodup
  /-- An actor has what it was last granted. -/
  operations : ∀ n actor, (v.permissions n).find? (·.actor = actor) =
    (grantsIn log n).reverse.find? (·.actor = actor)
  /-- A put leaves the permissions. -/
  puts : ∀ name value n, (v.answer (.put name value)).2.permissions n = v.permissions n
  /-- Anything but a put is refused if the name is absent, and only then. -/
  refusals : ∀ q e, (v.answer q).1 = .error e ↔
    q.method ≠ .put ∧ valuesIn log q.name = [] ∧ e = .notFound q.name
  /-- A request that is refused changes nothing. -/
  unchanged : ∀ q e, (v.answer q).1 = .error e → (v.answer q).2 = v
  /-- A request changes nothing under another name. -/
  others : ∀ q n, n ≠ q.name → (v.answer q).2.get? n = v.get? n

/-- A vault that began empty keeps the contract, whatever has been asked of it. -/
theorem contract_of_steps {v : Vault} {log : Log} (hrun : Steps Step empty log v) :
    Contract log v := by
  have hholds := holds_of_steps hrun
  refine ⟨hholds.present_iff, hholds.value, fun before n value reply after hlog ↦ ?_,
    hholds.permissions, fun n ↦ ?_, fun n actor ↦ ?_, fun name value n ↦ ?_, fun q e ↦ ?_,
    fun q e ↦ answer_of_error, fun q n ↦ get?_answer_of_ne⟩
  · subst hlog
    obtain ⟨u, hbefore, hrest⟩ := Steps.append_iff.1 hrun
    obtain ⟨u', hstep, -⟩ := Steps.cons_iff.1 hrest
    rw [← (holds_of_steps hbefore).version, ← answer_put u n value, hstep]
  · rw [hholds.permissions]
    exact nodup_latestGrants _
  · rw [hholds.permissions, find?_latestGrants]
  · exact permissions_of_step (q := .put name value) rfl n
  · have habsent : v.get? q.name = none ↔ valuesIn log q.name = [] := by
      rw [← Option.not_isSome_iff_eq_none, hholds.present_iff, not_not]
    rw [answer_error_iff, habsent]

/-- Makes requests, one after another. -/
def asking : List Request → Program Request.Reply Error Unit
  | [] => .done (.ok ())
  | q :: rest => .ask q fun _ ↦ asking rest

/-- Credentials that are put anew while two applications may read them, the one granted twice, and a
grant on a name that is deleted before. -/
def sharedCredential : List Request :=
  [.put "/c/x" (.bool false), .addPermission "/c/x" "mtls-app:a" ["read"],
   .addPermission "/c/x" "mtls-app:b" ["read"], .put "/c/x" (.bool true),
   .addPermission "/c/x" "mtls-app:a" ["read", "write"], .put "/c/y" .null, .delete "/c/y",
   .addPermission "/c/y" "mtls-app:a" ["read"]]

theorem contract_of_steps_sharedCredential :
    let v := ((asking sharedCredential).run answer empty).2
    v.value? "/c/x" = some (.bool true) ∧
      v.permissions "/c/x" = [⟨"mtls-app:b", ["read"]⟩, ⟨"mtls-app:a", ["read", "write"]⟩] ∧
      (v.answer (.delete "/c/y")).1 = .error (.notFound "/c/y") := by
  intro v
  have hcontract : Contract ((asking sharedCredential).trace answer empty) v :=
    contract_of_steps (Program.steps_trace answer (asking sharedCredential) empty)
  exact ⟨(hcontract.value "/c/x").trans rfl, (hcontract.permissions "/c/x").trans rfl,
    (hcontract.refusals (.delete "/c/y") _).2 ⟨nofun, rfl, rfl⟩⟩

end Brokerage.Vault
