import Interlink.Resolver

/-!
# Paths of published values

A path is joined from segments by slashes, and names may hold slashes, so a path
gives its segments back only where they hold none (`splitOn_joined`). Then it
also gives back what is published there (`path_injective`).

The values of other owners are remembered under paths too, and those of their
attachments under a path with the id of a gateway behind it. Such a key is never
the path of a gateway or of a route table, whatever the names are: the first
segments of the two are different (`path_ne_attachment`).
-/

namespace Interlink

namespace Published

/-- Segments joined by slashes, with a slash in front. -/
def joined (segments : List String) : List Char :=
  segments.flatMap fun segment => '/' :: segment.toList

/-- What all paths of an installation start with. -/
def root (pathPrefix : String) : List Char := ("/" ++ pathPrefix ++ "/network").toList

theorem networkPath_toList (pathPrefix : String) (segments : List String) :
    (networkPath pathPrefix segments).toList = root pathPrefix ++ joined segments := by
  have onward : ∀ (segments : List String) (start : String),
      (segments.foldl (fun path segment => path ++ "/" ++ segment) start).toList =
        start.toList ++ joined segments := by
    intro segments
    induction segments with
    | nil =>
      intro start
      simp [joined]
    | cons segment rest ih =>
      intro start
      rw [List.foldl_cons, ih]
      simp [joined]
  exact onward segments _

theorem path_toList (p : Published) (pathPrefix : String) :
    (p.path pathPrefix).toList = root pathPrefix ++ joined p.segments :=
  networkPath_toList pathPrefix p.segments

/-! ## Segments without slashes -/

/-- A text without a slash ends where the next segment begins. -/
theorem splitOn_plain {text : List Char} (plain : '/' ∉ text) (segments : List String)
    (others : ∀ segment ∈ segments, '/' ∉ segment.toList) :
    (text ++ joined segments).splitOn '/' = text :: segments.map String.toList := by
  induction segments generalizing text with
  | nil =>
    show (text ++ []).splitOn '/' = [text]
    rw [List.append_nil, List.splitOn_eq_singleton plain]
  | cons segment rest ih =>
    obtain ⟨first, later⟩ := List.forall_mem_cons.mp others
    have step : joined (segment :: rest) = '/' :: (segment.toList ++ joined rest) := rfl
    rw [step, List.splitOn_append_cons_self, List.splitOn_eq_singleton plain, ih first later]
    rfl

/-- Segments without slashes can be read off a path. -/
theorem splitOn_joined {segments : List String}
    (plain : ∀ segment ∈ segments, '/' ∉ segment.toList) :
    (joined segments).splitOn '/' = [] :: segments.map String.toList :=
  splitOn_plain List.not_mem_nil segments plain

/-- What is published under segments without slashes. -/
def Plain (p : Published) : Prop := ∀ segment ∈ p.segments, '/' ∉ segment.toList

theorem plain_transitGateway {gateway : String} (plain : '/' ∉ gateway.toList) :
    (transitGateway gateway).Plain := by
  simpa [Plain, segments] using plain

theorem plain_routeTable {gateway table : String} (gatewayPlain : '/' ∉ gateway.toList)
    (tablePlain : '/' ∉ table.toList) : (transitGatewayRouteTable gateway table).Plain := by
  simpa [Plain, segments] using ⟨gatewayPlain, tablePlain⟩

/-- Where no name holds a slash, different values are published at different
paths. -/
theorem path_injective {p q : Published} {pathPrefix : String} (hp : p.Plain) (hq : q.Plain)
    (same : p.path pathPrefix = q.path pathPrefix) : p = q := by
  have texts := congrArg String.toList same
  rw [path_toList, path_toList] at texts
  have split := congrArg (List.splitOn '/') (List.append_cancel_left texts)
  rw [splitOn_joined hp, splitOn_joined hq] at split
  have equal := List.map_inj_right (fun _ _ => String.toList_inj.mp) |>.mp (List.cons.inj split).2
  exact segments_injective equal

/-! ## First segments -/

/-- Whether a value is that of a gateway: its id, or that of one of its route
tables. -/
def ofGateway : Published → Bool
  | .transitGateway _ | .transitGatewayRouteTable .. => true
  | _ => false

theorem segments_ofGateway {p : Published} (gateway : p.ofGateway = true) :
    ∃ name rest, p.segments = "transitGateways" :: name :: rest := by
  cases p with
  | transitGateway name => exact ⟨name, ["id"], rfl⟩
  | transitGatewayRouteTable name table => exact ⟨name, ["routeTables", table, "id"], rfl⟩
  | _ => exact absurd gateway Bool.false_ne_true

theorem pathSegment_ne (kind : AttachmentKind) : "transitGateways" ≠ kind.pathSegment := by
  cases kind <;> decide

theorem pathSegment_plain (kind : AttachmentKind) : '/' ∉ kind.pathSegment.toList := by
  cases kind <;> decide

theorem joined_cons_cons (a b : String) (rest : List String) :
    joined (a :: b :: rest) = '/' :: (a.toList ++ '/' :: (b.toList ++ joined rest)) := rfl

/-- Two texts begin with one segment if they are the same and neither segment
holds a slash. -/
theorem segment_eq {a b : String} {as bs : List Char} (ha : '/' ∉ a.toList)
    (hb : '/' ∉ b.toList) (same : a.toList ++ '/' :: as = b.toList ++ '/' :: bs) : a = b := by
  have split := congrArg (List.splitOn '/') same
  rw [List.splitOn_append_cons_self, List.splitOn_append_cons_self, List.splitOn_eq_singleton ha,
    List.splitOn_eq_singleton hb] at split
  exact String.toList_inj.mp (List.cons.inj split).1

theorem segments_other {p : Published} (other : p.ofGateway = false) :
    ∃ first second rest, p.segments = first :: second :: rest ∧ "transitGateways" ≠ first ∧
      '/' ∉ first.toList := by
  cases p with
  | transitGateway => exact nomatch other
  | transitGatewayRouteTable => exact nomatch other
  | attachment kind child name =>
    exact ⟨_, _, _, rfl, pathSegment_ne kind, pathSegment_plain kind⟩
  | _ => exact ⟨_, _, _, rfl, by decide, by decide⟩

/-- What stands behind the path of something else does not make it a path of a gateway,
whatever the names are. -/
theorem path_ne_append {p q : Published} (gateway : p.ofGateway = true)
    (other : q.ofGateway = false) (pathPrefix suffix : String) :
    p.path pathPrefix ≠ q.path pathPrefix ++ suffix := by
  intro same
  obtain ⟨owner, rest, segments⟩ := segments_ofGateway gateway
  obtain ⟨first, second, rest', segments', differ, plain⟩ := segments_other other
  have texts := congrArg String.toList same
  rw [String.toList_append, path_toList, path_toList, List.append_assoc] at texts
  have behind := List.append_cancel_left texts
  rw [segments, segments', joined_cons_cons, joined_cons_cons, List.cons_append,
    List.append_assoc, List.cons_append] at behind
  exact differ (segment_eq (by decide) plain (List.cons.inj behind).2)

theorem path_ne {p q : Published} (gateway : p.ofGateway = true) (other : q.ofGateway = false)
    (pathPrefix : String) : p.path pathPrefix ≠ q.path pathPrefix := by
  simpa using path_ne_append gateway other pathPrefix ""

/-- What stands behind the path of an attachment does not make it a path of a
gateway. -/
theorem path_ne_attachment {p : Published} (gateway : p.ofGateway = true) (pathPrefix : String)
    (kind : AttachmentKind) (child name suffix : String) :
    p.path pathPrefix ≠ (attachment kind child name).path pathPrefix ++ suffix :=
  path_ne_append gateway rfl pathPrefix suffix

/-! ## Attachments -/

theorem plain_attachment {kind : AttachmentKind} {child name : String} :
    (attachment kind child name).Plain ↔ '/' ∉ child.toList ∧ '/' ∉ name.toList := by
  simp [Plain, segments, pathSegment_plain]

/-- Two texts that begin with one segment go on alike. -/
theorem segment_eq_and {a b : String} {as bs : List Char} (ha : '/' ∉ a.toList)
    (hb : '/' ∉ b.toList) (same : a.toList ++ '/' :: as = b.toList ++ '/' :: bs) :
    a = b ∧ as = bs := by
  obtain rfl := segment_eq ha hb same
  exact ⟨rfl, (List.cons.inj (List.append_cancel_left same)).2⟩

theorem path_attachment_toList (kind : AttachmentKind) (child name pathPrefix : String) :
    ((attachment kind child name).path pathPrefix).toList =
      root pathPrefix ++ '/' :: (kind.pathSegment.toList ++ '/' :: (child.toList ++ '/' ::
        ("transitGatewayAttachment".toList ++ '/' :: (name.toList ++ '/' :: "id".toList)))) := by
  rw [path_toList]
  simp [segments, joined]

/-- The path of an attachment tells its kind, whatever the names are. -/
theorem path_attachment_eq_iff {kind kind' : AttachmentKind}
    {child child' name name' pathPrefix : String} :
    (attachment kind child name).path pathPrefix = (attachment kind' child' name').path pathPrefix ↔
      kind = kind' ∧ child ++ "/transitGatewayAttachment/" ++ name =
        child' ++ "/transitGatewayAttachment/" ++ name' := by
  have middle (child name : String) (rest : List Char) :
      child.toList ++ '/' :: ("transitGatewayAttachment".toList ++ '/' :: (name.toList ++ rest)) =
        (child ++ "/transitGatewayAttachment/" ++ name).toList ++ rest := by
    simp
  rw [← String.toList_inj, path_attachment_toList, path_attachment_toList, middle, middle]
  constructor
  · intro same
    obtain ⟨kinds, rest⟩ := segment_eq_and (pathSegment_plain kind) (pathSegment_plain kind')
      (List.cons.inj (List.append_cancel_left same)).2
    exact ⟨AttachmentKind.pathSegment_injective kinds,
      String.toList_inj.mp (List.append_cancel_right rest)⟩
  · rintro ⟨rfl, same⟩
    rw [same]

/-- Where the names hold no slash, the path of an attachment can be told from what stands
behind it. -/
theorem path_attachment_append_injective {kind kind' : AttachmentKind}
    {child child' name name' pathPrefix suffix suffix' : String}
    (plain : (attachment kind child name).Plain) (plain' : (attachment kind' child' name').Plain)
    (same : (attachment kind child name).path pathPrefix ++ suffix =
      (attachment kind' child' name').path pathPrefix ++ suffix') :
    kind = kind' ∧ child = child' ∧ name = name' ∧ suffix = suffix' := by
  obtain ⟨childPlain, namePlain⟩ := plain_attachment.mp plain
  obtain ⟨childPlain', namePlain'⟩ := plain_attachment.mp plain'
  have texts := congrArg String.toList same
  simp only [String.toList_append, path_attachment_toList, List.append_assoc,
    List.cons_append] at texts
  have behind := (List.cons.inj (List.append_cancel_left texts)).2
  obtain ⟨kinds, behind⟩ := segment_eq_and (pathSegment_plain kind) (pathSegment_plain kind') behind
  obtain ⟨children, behind⟩ := segment_eq_and childPlain childPlain' behind
  obtain ⟨names, behind⟩ := segment_eq_and namePlain namePlain'
    (List.cons.inj (List.append_cancel_left behind)).2
  exact ⟨AttachmentKind.pathSegment_injective kinds, children, names,
    String.toList_inj.mp (List.append_cancel_left behind)⟩

end Published

end Interlink
