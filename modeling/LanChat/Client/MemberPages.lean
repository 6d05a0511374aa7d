import LanChat.Client.Draft
import LanChat.Storage.Caps

/-!
# The pages of the members

The overlay of F6 on `group_members`. Page Down and Page Up ask for the page after
and the page before the one on the screen, and an answer is a slice of the group's
members in one order.
-/

namespace LanChat

open Transition

/-- The member as the server sends it. -/
def MemberRow.summary (m : MemberRow) : GroupMemberSummary :=
  { memberId := m.memberId, nickname := m.lastNickname, role := m.role, status := m.status }

/-- Active members stand before banned ones, both by nickname and then by id. -/
def MemberRow.ListedBefore (a b : MemberRow) : Prop :=
  a.status = .active ∧ b.status = .banned ∨ a.status = b.status ∧
    (nocase a.lastNickname < nocase b.lastNickname ∨
      nocase a.lastNickname = nocase b.lastNickname ∧ a.memberId.key < b.memberId.key)

/-- What the overlay shows: the members, their offset, and whether there are more. -/
def ChatApp.memberPage (app : ChatApp) : Option (List GroupMemberSummary × ℕ × Bool) :=
  match app.overlay with
  | some (.groupMembers members _ _ offset hasMore) => some (members, offset, hasMore)
  | _ => none

namespace GatewayStore

section
variable (store : GatewayStore) (g : Uuid)

/-- The members of a group in the order of the query. -/
def memberRows : List MemberRow :=
  Table.orderBy MemberRow.listKey (store.groupMembers.filter (·.groupId == g))

/-- A key that asks for members of the group, and the answer to it. -/
def browse (app : ChatApp) : Uuid × KeyEvent → Option ChatApp
  | (draw, key) => do
    let (app', action) ← app.handleKey draw key
    match action with
    | .send (.listGroupMembers offset) =>
      let (members, hasMore) := store.groupMembersPage g offset
      some (app'.handleServerMessage (.groupMembers members offset hasMore))
    | _ => none

/-- The page on the screen and those that Page Down shows after it. -/
def readDown (draws : ℕ → Uuid) : ℕ → ChatApp → Option (List (List GroupMemberSummary))
  | 0, _ => none
  | fuel + 1, app => match app.memberPage with
    | some (members, _, true) =>
      ((store.browse g app (draws fuel, ⟨.pageDown, false⟩)).bind (readDown draws fuel)).map (members :: ·)
    | some (members, _, false) => some [members]
    | none => none

/-- Page Up and Page Down are the keys that turn pages. -/
def TurnsPage (_ : ChatApp) (event : Uuid × KeyEvent) : Prop :=
  event.2.code = .pageDown ∨ event.2.code = .pageUp

/-- The overlay shows the page at an offset and waits for no answer. -/
def Shows (app : ChatApp) (offset : ℕ) : Prop :=
  ∃ selected, app.overlay = some (.groupMembers (store.groupMembersPage g offset).1 selected false offset
    (store.groupMembersPage g offset).2)

end

variable {store : GatewayStore} {g : Uuid} {app next : ChatApp} {draw : Uuid} {key : KeyEvent} {offset : ℕ}

/-! ## The order -/

theorem memberRows_perm : (store.memberRows g).Perm (store.groupMembers.filter (·.groupId == g)) :=
  List.perm_insertionSort _ _

theorem memberRows_ids (unique : store.MemberIdsUnique) : ((store.memberRows g).map (·.memberId)).Nodup := by
  rw [(memberRows_perm.map _).nodup_iff]
  exact unique.sublist (List.filter_sublist.map _)

theorem listedBefore_of_key {a b : MemberRow} (lt : a.listKey < b.listKey) : a.ListedBefore b := by
  rcases Prod.Lex.lt_iff.1 lt with first | ⟨same, rest⟩
  · left
    cases sa : a.status <;> cases sb : b.status <;> simp [MemberRow.listKey, sa, sb] at first ⊢
  · right
    constructor
    · cases sa : a.status <;> cases sb : b.status <;> simp [MemberRow.listKey, sa, sb] at same ⊢
    · exact Prod.Lex.lt_iff.1 rest

theorem uuid_of_key {u v : Uuid} (same : u.key = v.key) : u = v := by
  cases u
  cases v
  exact congrArg Uuid.mk (BitVec.eq_of_toNat_eq same)

/-- No two members are at one place of the order. -/
theorem memberRows_ordered (unique : store.MemberIdsUnique) :
    (store.memberRows g).Pairwise MemberRow.ListedBefore := by
  have sorted : (store.memberRows g).Pairwise fun a b => a.listKey ≤ b.listKey :=
    List.pairwise_insertionSort _ _
  have apart : (store.memberRows g).Pairwise fun a b => a.memberId ≠ b.memberId :=
    List.pairwise_map.1 (memberRows_ids unique)
  refine (sorted.and apart).imp fun {a b} ⟨le, ids⟩ => listedBefore_of_key (lt_of_le_of_ne le fun same => ids ?_)
  have keys := congrArg (fun k => (ofLex (ofLex k).2).2) same
  exact uuid_of_key keys

/-! ## One page -/

/-- A page is a slice of the members. -/
theorem groupMembersPage_eq (offset : ℕ) : store.groupMembersPage g offset =
    ((((store.memberRows g).drop offset).take memberPageSize).map MemberRow.summary,
      decide (memberPageSize < ((store.memberRows g).drop offset).length)) := by
  simp only [groupMembersPage, Prod.mk.injEq]
  constructor
  · rw [List.take_take, Nat.min_eq_left (Nat.le_succ _)]
    rfl
  · rw [decide_eq_decide, memberRows, List.length_take]
    omega

theorem groupMembersPage_more : (store.groupMembersPage g offset).2 = true ↔
    offset + memberPageSize < (store.memberRows g).length := by
  rw [groupMembersPage_eq, decide_eq_true_iff, List.length_drop]
  omega

theorem Shows.page (shows : store.Shows g app offset) : app.memberPage =
    some ((store.groupMembersPage g offset).1, offset, (store.groupMembersPage g offset).2) := by
  obtain ⟨selected, opened⟩ := shows
  rw [ChatApp.memberPage, opened]

theorem handleKey_shows (shows : store.Shows g app offset) (draw : Uuid) (key : KeyEvent) :
    ∃ selected, app.handleKey draw key =
      app.handleGroupMembersKey key (store.groupMembersPage g offset).1 selected false offset
        (store.groupMembersPage g offset).2 := by
  obtain ⟨selected, opened⟩ := shows
  refine ⟨selected, ?_⟩
  rw [ChatApp.handleKey, opened]
  rfl

/-- The answer to a request is on the screen. -/
theorem browse_asked
    (asks : (app.handleKey draw key).map (·.2) = some (.send (.listGroupMembers offset))) :
    ∃ next, store.browse g app (draw, key) = some next ∧ store.Shows g next offset := by
  obtain ⟨⟨app', action⟩, handled, rfl⟩ := Option.map_eq_some_iff.1 asks
  rw [browse, handled]
  exact ⟨_, rfl, _, rfl⟩

/-- **F6 of an administrator** shows the first page. -/
theorem browse_open (idle : app.overlay = none) (full : app.focusMode = false) (admin : app.role = .admin) :
    ∃ first, store.browse g app (draw, ⟨.f 6, false⟩) = some first ∧ store.Shows g first 0 := by
  apply browse_asked
  simp [ChatApp.handleKey, ChatApp.handleViewKey, ChatApp.handlePaneKey, idle, full, admin]

theorem browse_pageDown (shows : store.Shows g app offset) (draw : Uuid) (code : key.code = .pageDown) :
    if offset + memberPageSize < (store.memberRows g).length then
      ∃ next, store.browse g app (draw, key) = some next ∧
        store.Shows g next (min (offset + uiMemberPageSize) u32Max)
    else store.browse g app (draw, key) = none := by
  obtain ⟨selected, handled⟩ := handleKey_shows shows draw key
  split
  · next more =>
    apply browse_asked
    simp [handled, ChatApp.handleGroupMembersKey, code, groupMembersPage_more.2 more]
  · next last =>
    have noMore : (store.groupMembersPage g offset).2 = false := by
      rw [← Bool.not_eq_true, groupMembersPage_more]
      exact last
    simp [browse, handled, ChatApp.handleGroupMembersKey, code, noMore, ChatApp.stay]

theorem browse_pageUp (shows : store.Shows g app offset) (draw : Uuid) (code : key.code = .pageUp) :
    if 0 < offset then
      ∃ next, store.browse g app (draw, key) = some next ∧ store.Shows g next (offset - uiMemberPageSize)
    else store.browse g app (draw, key) = none := by
  obtain ⟨selected, handled⟩ := handleKey_shows shows draw key
  split
  · next later =>
    apply browse_asked
    simp [handled, ChatApp.handleGroupMembersKey, code, later]
  · next first =>
    simp [browse, handled, ChatApp.handleGroupMembersKey, code, first, ChatApp.stay]

/-! ## All pages -/

/-- The pages from an offset on are the members from there on. -/
theorem readDown_eq {draws : ℕ → Uuid} (few : (store.memberRows g).length ≤ u32Max) {fuel : ℕ}
    (shows : store.Shows g app offset) (enough : ((store.memberRows g).drop offset).length < fuel) :
    (store.readDown g draws fuel app).map List.flatten =
      some (((store.memberRows g).drop offset).map MemberRow.summary) := by
  induction fuel generalizing app offset with
  | zero => omega
  | succ fuel ih =>
    have down := @browse_pageDown _ _ _ ⟨.pageDown, false⟩ _ shows (draws fuel) rfl
    rw [readDown, shows.page]
    by_cases more : offset + memberPageSize < (store.memberRows g).length
    · rw [if_pos more] at down
      obtain ⟨next, shown, here⟩ := down
      have sizes : min (offset + uiMemberPageSize) u32Max = offset + memberPageSize := by
        change min (offset + memberPageSize) u32Max = offset + memberPageSize
        omega
      rw [sizes] at here
      have rest := ih here (by
        have positive : 0 < memberPageSize := by decide
        simp only [List.length_drop] at enough ⊢
        omega)
      obtain ⟨pages, read, joined⟩ := Option.map_eq_some_iff.1 rest
      rw [groupMembersPage_more.2 more]
      simp only [shown, Option.bind_some, read, Option.map_some, List.flatten_cons, joined,
        Option.some.injEq]
      rw [groupMembersPage_eq, ← List.map_append, ← List.drop_drop, List.take_append_drop]
    · have noMore : (store.groupMembersPage g offset).2 = false := by
        rw [← Bool.not_eq_true, groupMembersPage_more]
        exact more
      rw [noMore]
      simp only [Option.map_some, List.flatten_cons, List.flatten_nil, List.append_nil, Option.some.injEq]
      rw [groupMembersPage_eq, List.take_of_length_le]
      rw [List.length_drop]
      omega

/-! ## Back and forth -/

/-- What turning pages keeps: whole pages are before the one on the screen. -/
def Reached (store : GatewayStore) (g : Uuid) (app : ChatApp) : Prop :=
  ∃ k, store.Shows g app (k * memberPageSize) ∧ (k = 0 ∨ k * memberPageSize < (store.memberRows g).length)

/-- Where the keys of a page lead. -/
theorem turned_down (few : (store.memberRows g).length ≤ u32Max) {k : ℕ}
    (shows : store.Shows g app (k * memberPageSize)) (code : key.code = .pageDown)
    (turned : store.browse g app (draw, key) = some next) :
    store.Shows g next ((k + 1) * memberPageSize) ∧ (k + 1) * memberPageSize < (store.memberRows g).length := by
  have down := browse_pageDown shows draw code
  split at down
  · next more =>
    obtain ⟨shown, same, here⟩ := down
    obtain rfl := Option.some.inj (same.symm.trans turned)
    have sizes : min (k * memberPageSize + uiMemberPageSize) u32Max = (k + 1) * memberPageSize := by
      rw [Nat.succ_mul]
      change min (k * memberPageSize + memberPageSize) u32Max = _
      omega
    rw [sizes] at here
    exact ⟨here, by rwa [Nat.succ_mul]⟩
  · rw [down] at turned
    cases turned

theorem turned_up {k : ℕ} (shows : store.Shows g app (k * memberPageSize)) (code : key.code = .pageUp)
    (turned : store.browse g app (draw, key) = some next) :
    ∃ j, k = j + 1 ∧ store.Shows g next (j * memberPageSize) := by
  have up := browse_pageUp shows draw code
  cases k with
  | zero =>
    rw [if_neg (by omega), turned] at up
    cases up
  | succ j =>
    rw [if_pos (by rw [Nat.succ_mul]; exact Nat.lt_of_lt_of_le (by decide) (Nat.le_add_left memberPageSize _))] at up
    obtain ⟨shown, same, here⟩ := up
    obtain rfl := Option.some.inj (same.symm.trans turned)
    refine ⟨j, rfl, ?_⟩
    rw [Nat.succ_mul] at here
    exact Nat.add_sub_cancel (j * memberPageSize) memberPageSize ▸ here

theorem Reached.turned (few : (store.memberRows g).length ≤ u32Max) (reached : store.Reached g app)
    (turns : TurnsPage app (draw, key)) (turned : store.browse g app (draw, key) = some next) :
    store.Reached g next := by
  obtain ⟨k, shows, inside⟩ := reached
  rcases turns with down | up
  · obtain ⟨here, within⟩ := turned_down few shows down turned
    exact ⟨k + 1, here, .inr within⟩
  · obtain ⟨j, rfl, here⟩ := turned_up shows up turned
    refine ⟨j, here, .inr ?_⟩
    rw [Nat.succ_mul] at inside
    omega

/-- Page Up after Page Down. -/
theorem Reached.down_up (few : (store.memberRows g).length ≤ u32Max) (reached : store.Reached g app)
    {later : ChatApp} (code : key.code = .pageDown) (turned : store.browse g app (draw, key) = some later)
    {draw' : Uuid} {key' : KeyEvent} (code' : key'.code = .pageUp) :
    ∃ back, store.browse g later (draw', key') = some back ∧ back.memberPage = app.memberPage := by
  obtain ⟨k, shows, -⟩ := reached
  obtain ⟨here, -⟩ := turned_down few shows code turned
  have up := browse_pageUp here draw' code'
  have positive : 0 < memberPageSize := by decide
  rw [if_pos (by rw [Nat.succ_mul]; omega)] at up
  obtain ⟨back, same, there⟩ := up
  obtain ⟨j, succ, there⟩ := turned_up here code' same
  obtain rfl := Nat.succ.inj succ
  exact ⟨back, same, by rw [there.page, shows.page]⟩

/-- Page Down after Page Up. -/
theorem Reached.up_down (few : (store.memberRows g).length ≤ u32Max) (reached : store.Reached g app)
    {earlier : ChatApp} (code : key.code = .pageUp)
    (turned : store.browse g app (draw, key) = some earlier) {draw' : Uuid} {key' : KeyEvent}
    (code' : key'.code = .pageDown) :
    ∃ back, store.browse g earlier (draw', key') = some back ∧ back.memberPage = app.memberPage := by
  obtain ⟨k, shows, inside⟩ := reached
  obtain ⟨j, rfl, here⟩ := turned_up shows code turned
  have down := browse_pageDown here draw' code'
  rw [if_pos (by rw [← Nat.succ_mul]; exact inside.resolve_left (Nat.succ_ne_zero j))] at down
  obtain ⟨back, same, -⟩ := down
  obtain ⟨there, -⟩ := turned_down few here code' same
  exact ⟨back, same, by rw [there.page, shows.page]⟩

end GatewayStore

open GatewayStore in
/-- **The pages of the members cover everybody**, in every store that operations
reach: paging down from the first page ends, the pages are the members of the
group, each once and in order, and turning back shows the same page again. -/
theorem member_pages_cover (prims : Primitives) (start : GatewayStore) (opened : Opened start)
    (ops : List StoreOp) (g : Uuid) (app : ChatApp) (idle : app.overlay = none)
    (full : app.focusMode = false) (admin : app.role = .admin) (draw : Uuid) (draws : ℕ → Uuid) :
    let store := (start.performAll prims ops).2
    ∃ (first : ChatApp) (rows : List MemberRow), store.browse g app (draw, ⟨.f 6, false⟩) = some first ∧
      (∀ fuel, rows.length < fuel → (store.readDown g draws fuel first).map List.flatten =
        some (rows.map MemberRow.summary)) ∧
      rows.Perm (store.groupMembers.filter (·.groupId == g)) ∧ (rows.map (·.memberId)).Nodup ∧
      rows.Pairwise MemberRow.ListedBefore ∧
      ∀ turns shown, Run (store.browse g) TurnsPage first turns shown →
        ∀ key key' draw draw' next, (key = .pageDown ∧ key' = .pageUp ∨ key = .pageUp ∧ key' = .pageDown) →
          store.browse g shown (draw, ⟨key, false⟩) = some next →
          ∃ back, store.browse g next (draw', ⟨key', false⟩) = some back ∧
            back.memberPage = shown.memberPage := by
  intro store
  have unique : store.MemberIdsUnique := (nearlyCapped_performAll opened ops).memberIds
  have few : (store.memberRows g).length ≤ u32Max := by
    rw [memberRows_perm.length_eq, ← List.countP_eq_length_filter]
    exact (memberCount_le opened ops g).trans (by decide)
  obtain ⟨first, opens, here⟩ := @browse_open store g app draw idle full admin
  refine ⟨first, store.memberRows g, opens, fun fuel enough => readDown_eq few here enough,
    memberRows_perm, memberRows_ids unique, memberRows_ordered unique, ?_⟩
  intro turns shown run key key' draw draw' next back turned
  have reached : store.Reached g shown :=
    run.preserves (fun _ _ _ reached turns turned => reached.turned few turns turned) ⟨0, here, .inl rfl⟩
  rcases back with ⟨rfl, rfl⟩ | ⟨rfl, rfl⟩
  · exact reached.down_up few rfl turned rfl
  · exact reached.up_down few rfl turned rfl

open GatewayStore in
/-- Fifty members and their administrator, who turns to the second page and back. -/
theorem member_pages_cover_adminMigrated :
    let store := (teamOfVersionTwo.migrate.performAll .checksummed (crowd 50)).2
    let app := { ChatApp.new lateWelcome with role := .admin }
    ∃ (first next back : ChatApp) (rows : List MemberRow),
      store.browse ⟨1⟩ app (⟨0⟩, ⟨.f 6, false⟩) = some first ∧ rows.length = 51 ∧
      (store.readDown ⟨1⟩ (fun _ => ⟨0⟩) (rows.length + 1) first).map List.flatten =
        some (rows.map MemberRow.summary) ∧
      store.browse ⟨1⟩ first (⟨0⟩, ⟨.pageDown, false⟩) = some next ∧
      store.browse ⟨1⟩ next (⟨0⟩, ⟨.pageUp, false⟩) = some back ∧ back.memberPage = first.memberPage := by
  have covers := member_pages_cover .checksummed _ opened_teamOfVersionTwo (crowd 50) ⟨1⟩
    { ChatApp.new lateWelcome with role := .admin } rfl rfl rfl ⟨0⟩ (fun _ => ⟨0⟩)
  have members : (teamOfVersionTwo.migrate.performAll .checksummed (crowd 50)).2.memberCount ⟨1⟩ = 51 :=
    memberCount_crowd (by decide)
  -- what the store holds is not looked at from here on
  generalize (teamOfVersionTwo.migrate.performAll .checksummed (crowd 50)).2 = store at covers members ⊢
  rw [memberCount, List.countP_eq_length_filter] at members
  intro store' app
  obtain ⟨first, rows, opens, read, perm, -, -, turns⟩ := covers
  obtain ⟨shown, same, here⟩ := @browse_open store ⟨1⟩ app ⟨0⟩ rfl rfl rfl
  obtain rfl := Option.some.inj (opens.symm.trans same)
  have down := @browse_pageDown store ⟨1⟩ first ⟨.pageDown, false⟩ 0 here ⟨0⟩ rfl
  rw [if_pos (by rw [memberRows_perm.length_eq, members]; decide)] at down
  obtain ⟨next, turned, -⟩ := down
  obtain ⟨back, returned, page⟩ :=
    turns [] first (.nil _) .pageDown .pageUp ⟨0⟩ ⟨0⟩ next (.inl ⟨rfl, rfl⟩) turned
  exact ⟨first, next, back, rows, opens, perm.length_eq.trans members, read _ (Nat.lt_succ_self _), turned,
    returned, page⟩

end LanChat
