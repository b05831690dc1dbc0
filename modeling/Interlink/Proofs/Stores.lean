import Interlink.Proofs.Publishing

/-!
# What is read from a store

A memory keeps its values under the text of a scope and a path. Whatever is written, a
reader is told the value that was written last under the text of its scope, in all three
ways to read it (`Memory.Tells`).

The text of a scope does not always give the scope back, so this need not be the value
that was written last in the scope itself. It is exactly when no other scope that is
written to has the same text (`stores_separate_iff`). A scope whose names hold no slash
shares its text with no other one, and only such a scope is safe from all others. Nothing
keeps slashes out of the names of a valid topology: two of its units can have one text, and
what the one stores the other reads (`slashed_units_share_a_store`).
-/

namespace Interlink

/-! ## The text of a scope -/

namespace Scope

variable {a b s : Scope}

theorem render_toList (s : Scope) :
    s.render.toList = s.account.toList ++ '/' :: s.region.toList := by
  simp [render]

private theorem eq_of_toList (account : a.account.toList = b.account.toList)
    (region : a.region.toList = b.region.toList) : a = b :=
  eq_iff.mpr ⟨beq_iff_eq.mpr (String.toList_inj.mp account),
    beq_iff_eq.mpr (String.toList_inj.mp region)⟩

/-- What stands before the first slash is the same in equal texts. -/
private theorem before_slash {x y x' y' : List Char} (plain : '/' ∉ x) (plain' : '/' ∉ x')
    (same : x ++ '/' :: y = x' ++ '/' :: y') : x = x' ∧ y = y' := by
  have pieces := congrArg (List.splitOn '/') same
  rw [List.splitOn_append_cons_self, List.splitOn_append_cons_self,
    List.splitOn_eq_singleton plain, List.splitOn_eq_singleton plain'] at pieces
  obtain ⟨rfl, -⟩ := List.cons.inj pieces
  exact ⟨rfl, (List.cons.inj (List.append_cancel_left same)).2⟩

theorem eq_of_render_of_accounts (plain : '/' ∉ a.account.toList)
    (plain' : '/' ∉ b.account.toList) (same : a.render = b.render) : a = b := by
  have texts := congrArg String.toList same
  rw [render_toList, render_toList] at texts
  obtain ⟨account, region⟩ := before_slash plain plain' texts
  exact eq_of_toList account region

theorem eq_of_render_of_regions (plain : '/' ∉ a.region.toList)
    (plain' : '/' ∉ b.region.toList) (same : a.render = b.render) : a = b := by
  have texts := congrArg (List.reverse ∘ String.toList) same
  -- Read backwards, the regions stand in front of the slash.
  simp only [Function.comp, render_toList, List.reverse_append, List.reverse_cons,
    List.append_assoc, List.singleton_append] at texts
  obtain ⟨region, account⟩ := before_slash (by simpa using plain) (by simpa using plain') texts
  exact eq_of_toList (List.reverse_injective account) (List.reverse_injective region)

/-- A text can be cut at every slash that it holds. -/
private theorem exists_cut {text : String} (slash : '/' ∈ text.toList) :
    ∃ before after, text = before ++ "/" ++ after ∧
      text.length = before.length + after.length + 1 := by
  obtain ⟨before, after, cut⟩ := List.append_of_mem slash
  have pieces : text = .ofList before ++ "/" ++ .ofList after := by
    rw [← String.toList_inj]
    simp [cut]
  have one : "/".length = 1 := rfl
  refine ⟨_, _, pieces, ?_⟩
  rw [pieces, String.length_append, String.length_append]
  omega

/-- Exactly the scopes whose names hold no slash share their text with no other scope. -/
theorem text_unshared_iff :
    (∀ other : Scope, other.render = s.render → other = s) ↔
      '/' ∉ s.account.toList ∧ '/' ∉ s.region.toList := by
  constructor
  · -- A slash in a name may as well be the one between the names.
    intro unshared
    refine ⟨fun slash => ?_, fun slash => ?_⟩
    · obtain ⟨before, after, cut, longer⟩ := exists_cut slash
      have same : (⟨before, after ++ "/" ++ s.region⟩ : Scope) = s := by
        refine unshared _ ?_
        simp [render, cut, String.append_assoc]
      have account : before = s.account := congrArg Scope.account same
      rw [account] at longer
      omega
    · obtain ⟨before, after, cut, longer⟩ := exists_cut slash
      have same : (⟨s.account ++ "/" ++ before, after⟩ : Scope) = s := by
        refine unshared _ ?_
        simp [render, cut, String.append_assoc]
      have region : after = s.region := congrArg Scope.region same
      rw [region] at longer
      omega
  · rintro ⟨account, region⟩ other same
    have texts := congrArg String.toList same.symm
    rw [render_toList, render_toList] at texts
    obtain ⟨accounts, -, regions⟩ := (List.append_cons_inj_of_notMem account region).mp texts
    exact eq_of_toList accounts.symm regions.symm

/-- No other one of some scopes has the text of the scope. -/
def Distinguished (among : Scope → Prop) (scope : Scope) : Prop :=
  ∀ other, among other → other.render = scope.render → other = scope

end Scope

/-! ## The last write -/

namespace PublishCall

/-- The value that was written last in a scope under a path. -/
def lastIn (scope : Scope) (path : String) : List PublishCall → Option String :=
  lastOf fun c => c.scope = scope ∧ c.path = path

/-- Where only one of the scopes that are written to has a text, the cells under this text are those
of the scope. -/
theorem lastAt_render {scope : Scope} {writes : List PublishCall}
    (told : ∀ c ∈ writes, c.scope.render = scope.render → c.scope = scope) (path : String) :
    lastAt scope.render path writes = lastIn scope path writes := by
  have sorts : writes.filter (·.WritesTo scope.render path) =
      writes.filter fun c => c.scope = scope ∧ c.path = path := by
    refine List.filter_congr fun c hc => decide_eq_decide.mpr ?_
    exact and_congr_left' ⟨told c hc, congrArg Scope.render⟩
  rw [lastAt, lastIn, lastOf, lastOf, sorts]

end PublishCall

/-! ## Three ways to read -/

namespace Memory

variable {m : Memory} {scope : Scope} {path : String} {value? : Option String}

/-- A memory admits an identity that assumes no role, or one whose account is not denied. -/
def Admits (m : Memory) (i : Identity) : Prop :=
  i.roleName.isSome → m.denied.contains i.account = false

/-- However the value in a scope under a path is read, it is the given one. -/
structure Tells (m : Memory) (scope : Scope) (path : String) (value? : Option String) : Prop where
  value : m.snapshot.value? scope path = value?
  localRead : m.answer (.localValue scope path) = .ofOption value?
  /-- Every identity of the scope that is admitted reads it. -/
  remoteRead : ∀ i : Identity, i.scope = scope → m.Admits i →
    m.answer (.remoteValue i path) = .ofOption value?

theorem access_of_admits {i : Identity} (admitted : m.Admits i) : m.access i = .ok () := by
  unfold access
  cases role : i.roleName with
  | none => rfl
  | some name => simp [admitted (by rw [role]; rfl)]

/-- All readers are told what is in the cell. -/
theorem tells_iff : m.Tells scope path value? ↔ m.snapshot.cell? scope.render path = value? := by
  constructor
  · exact Tells.value
  · rintro rfl
    refine ⟨rfl, rfl, ?_⟩
    rintro i rfl admitted
    show m.answerFor i _ = _
    rw [answerFor, access_of_admits admitted]
    rfl

theorem tells_publishAll (m : Memory) (writes : List PublishCall) (scope : Scope)
    (path : String) :
    (m.publishAll writes).Tells scope path
      ((PublishCall.lastAt scope.render path writes).or (m.snapshot.value? scope path)) :=
  tells_iff.mpr (m.cell?_publishAll writes scope.render path)

/-! ## Scopes that are kept apart -/

/-- Whatever is written in some scopes, a reader of the scope is told the value that was written
last in this very scope, or what was there before. -/
def ReadsLast (written : Scope → Prop) (scope : Scope) : Prop :=
  ∀ (m : Memory) (writes : List PublishCall), (∀ c ∈ writes, written c.scope) → ∀ path,
    (m.publishAll writes).Tells scope path
      ((PublishCall.lastIn scope path writes).or (m.snapshot.value? scope path))

/-- A write in another one of some scopes changes nothing of what is read in the scope. -/
def Undisturbed (written : Scope → Prop) (scope : Scope) : Prop :=
  ∀ (m : Memory) (c : PublishCall), written c.scope → c.scope ≠ scope → ∀ path value?,
    m.Tells scope path value? → (m.publish c).Tells scope path value?

/-- A first write is read in every scope of the same text. -/
private theorem tells_first_write {other : Scope} (same : other.render = scope.render) :
    (({} : Memory).publish ⟨other, "", ""⟩).Tells scope "" (some "") :=
  tells_iff.mpr ((cell?_publish {} _).trans (if_pos ⟨same, rfl⟩))

theorem readsLast_iff {written : Scope → Prop} :
    ReadsLast written scope ↔ scope.Distinguished written := by
  constructor
  · intro reads other among same
    by_contra differ
    have told := (reads {} [⟨other, "", ""⟩] (by simpa using among) "").value
    have never : PublishCall.lastIn scope "" [⟨other, "", ""⟩] = none := by
      simp [PublishCall.lastIn, PublishCall.lastOf, differ]
    rw [never] at told
    exact Option.some_ne_none _ ((tells_first_write same).value.symm.trans told)
  · intro distinguished m writes among path
    rw [← PublishCall.lastAt_render (fun c hc => distinguished c.scope (among c hc)) path]
    exact m.tells_publishAll writes scope path

theorem undisturbed_iff {written : Scope → Prop} :
    Undisturbed written scope ↔ scope.Distinguished written := by
  constructor
  · intro undisturbed other among same
    by_contra differ
    have told := undisturbed {} ⟨other, "", ""⟩ among differ "" none (tells_iff.mpr rfl)
    exact Option.some_ne_none _ ((tells_first_write same).value.symm.trans told.value)
  · intro distinguished m c among differ path value? told
    refine tells_iff.mpr ?_
    have elsewhere : ¬c.WritesTo scope.render path := fun writes =>
      differ (distinguished c.scope among writes.1)
    rw [cell?_publish, if_neg elsewhere]
    exact told.value

end Memory

/-- A reader is told what was written last under the text of the scope. Whichever scopes are written
to, a scope reads what was written last in itself, and is undisturbed by the others, exactly if
none of these has its text. Of all scopes those without a slash are safe. Where no account that is
written to holds a slash, all scopes of such accounts are, and so it is with regions. -/
theorem stores_separate_iff (written : Scope → Prop) (scope : Scope) :
    (∀ (m : Memory) writes path, (m.publishAll writes).Tells scope path
      ((PublishCall.lastAt scope.render path writes).or (m.snapshot.value? scope path))) ∧
    (Memory.ReadsLast written scope ↔ scope.Distinguished written) ∧
    (Memory.Undisturbed written scope ↔ scope.Distinguished written) ∧
    (scope.Distinguished (fun _ => True) ↔
      '/' ∉ scope.account.toList ∧ '/' ∉ scope.region.toList) ∧
    (('/' ∉ scope.account.toList ∧ ∀ other, written other → '/' ∉ other.account.toList) ∨
        ('/' ∉ scope.region.toList ∧ ∀ other, written other → '/' ∉ other.region.toList) →
      scope.Distinguished written) := by
  refine ⟨fun m writes path => m.tells_publishAll writes scope path, Memory.readsLast_iff,
    Memory.undisturbed_iff, ?_, ?_⟩
  · exact Iff.trans ⟨fun all other => all other trivial, fun all other _ => all other⟩
      Scope.text_unshared_iff
  · rintro (⟨account, accounts⟩ | ⟨region, regions⟩) other there same
    · exact Scope.eq_of_render_of_accounts (accounts _ there) account same
    · exact Scope.eq_of_render_of_regions (regions _ there) region same

/-- The two units of the sample have no slashes, so each reads what was written last in it, whatever
the memory had before. -/
theorem stores_separate_iff_sample :
    let app : Scope := ⟨"Workload", "us-east-1"⟩
    let hub : Scope := ⟨"Network", "us-east-1"⟩
    let writes : List PublishCall := [⟨app, "/p", "old"⟩, ⟨app, "/p", "new"⟩, ⟨hub, "/p", "other"⟩]
    (Memory.sample.publishAll writes).Tells app "/p" (some "new") ∧
      (Memory.sample.publishAll writes).Tells hub "/p" (some "other") ∧
      Memory.Undisturbed (fun scope => scope ∈ [app, hub]) app := by
  intro app hub writes
  obtain ⟨-, appReads, appKept, -, appPlain⟩ :=
    stores_separate_iff (fun scope => scope ∈ [app, hub]) app
  obtain ⟨-, hubReads, -, -, hubPlain⟩ :=
    stores_separate_iff (fun scope => scope ∈ [app, hub]) hub
  have appApart := appPlain (.inl (by decide))
  have hubApart := hubPlain (.inl (by decide))
  exact ⟨appReads.mpr appApart Memory.sample writes (by decide) "/p",
    hubReads.mpr hubApart Memory.sample writes (by decide) "/p", appKept.mpr appApart⟩

/-- Two accounts, of which one has a slash in its name and the other one in a region. Each of them
has a gateway, and both gateways have one name. -/
def Topology.sampleSlashed : Topology where
  settings := { homeRegion := "eu-west-1" }
  accounts :=
    [{ name := "Dev", id := "111111111111", organizationalUnit := none },
      { name := "Dev/eu", id := "222222222222", organizationalUnit := none }]
  network :=
    { gateways :=
        [{ name := "Core", account := "Dev", region := "eu/west" },
          { name := "Core", account := "Dev/eu", region := "west" }] }

/-- Two units of a valid topology can have one text. What is published in the one is then read in
the other, in which nothing was ever stored, and replaces what was stored there. -/
theorem slashed_units_share_a_store :
    Topology.sampleSlashed.validate = .ok () ∧
    (Topology.sampleSlashed.network.gateways.map fun g => (⟨g.account, g.region⟩ : Scope)) =
      [⟨"Dev", "eu/west"⟩, ⟨"Dev/eu", "west"⟩] ∧
    let path := (Published.transitGateway "Core").path "accel"
    let first : PublishCall := ⟨⟨"Dev", "eu/west"⟩, path, "tgw-dev"⟩
    let second : PublishCall := ⟨⟨"Dev/eu", "west"⟩, path, "tgw-eu"⟩
    PublishCall.lastIn second.scope path [first] = none ∧
      (({} : Memory).publishAll [first]).Tells second.scope path (some "tgw-dev") ∧
      PublishCall.lastIn first.scope path [first, second] = some "tgw-dev" ∧
      (({} : Memory).publishAll [first, second]).Tells first.scope path (some "tgw-eu") ∧
      ¬∀ (writes : List PublishCall) (scope : Scope) (path : String),
        (({} : Memory).publishAll writes).Tells scope path
          (PublishCall.lastIn scope path writes) := by
  refine ⟨rfl, rfl, rfl, Memory.tells_iff.mpr rfl, rfl, Memory.tells_iff.mpr rfl,
    fun all => ?_⟩
  have told := (all [⟨⟨"Dev", "eu/west"⟩, "/p", "v"⟩] ⟨"Dev/eu", "west"⟩ "/p").value
  exact absurd told (by decide)

end Interlink
