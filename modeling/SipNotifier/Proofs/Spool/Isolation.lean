import Mathlib.Data.List.Basic
import SipNotifier.Spool
import SipNotifier.Subscription

/-! Mailboxes of one spool beside each other. What a mailbox reports is settled by the part of the tree
that begins with its name (`Tree.only`), and no edit elsewhere reaches that part. One name is different:
a single dot is accepted as a mailbox, and it leads to the root, among whose entries are all the others.
Main statement: a mailbox is isolated exactly if it has another name than that (`isolated_iff`). -/
namespace SipNotifier.Spool
set_option autoImplicit false

/-! ## The part of a tree that belongs to a mailbox -/

namespace Tree

def only (t : Tree) (mailbox : String) : Tree :=
  ⟨t.nodes.filter fun node => node.1.head? == some mailbox⟩

theorem lookup_filter (p : List String → Bool) (nodes : List (List String × NodeKind))
    (path : List String) (h : p path = true) :
    (nodes.filter fun node => p node.1).lookup path = nodes.lookup path := by
  induction nodes with
  | nil => rfl
  | cons node nodes ih =>
    obtain ⟨place, kind⟩ := node
    by_cases hplace : path = place
    · subst hplace
      rw [List.filter_cons_of_pos (by exact h), List.lookup_cons, List.lookup_cons]
      simp
    · have hb : (path == place) = false := by simpa using hplace
      by_cases hp : p place = true
      · rw [List.filter_cons_of_pos (by exact hp), List.lookup_cons, List.lookup_cons, hb, ih]
      · rw [List.filter_cons_of_neg (by exact hp), ih, List.lookup_cons, hb]

theorem kind?_only (t : Tree) (mailbox : String) :
    (t.only mailbox).kind? [mailbox] = t.kind? [mailbox] := by
  simp only [kind?, only, List.cons_ne_nil, if_false]
  exact lookup_filter (fun path => path.head? == some mailbox) t.nodes [mailbox] (by simp)

theorem children_only (t : Tree) (mailbox : String) :
    (t.only mailbox).children [mailbox] = t.children [mailbox] := by
  simp only [children, only, List.filterMap_filter]
  refine List.filterMap_congr fun node _ => ?_
  split
  · rfl
  · next hother =>
    rw [if_neg]
    intro hparent
    refine hother ?_
    cases hpath : node.1 with
    | nil => simp [hpath] at hparent
    | cons first rest =>
      cases rest with
      | nil => simp [hpath] at hparent
      | cons next rest =>
        rw [hpath, List.dropLast_cons_cons, List.cons.injEq] at hparent
        simp [hparent.1]

/-! ## Edits -/

theorem only_add (t : Tree) (mailbox first : String) (rest : List String) (kind : NodeKind)
    (h : first ≠ mailbox) : (t.add (first :: rest) kind).only mailbox = t.only mailbox := by
  simp only [add]
  split
  · rfl
  · simp [only, h]

theorem head_of_mem_parents (first : String) (rest above : List String)
    (h : above ∈ parents (first :: rest)) : ∃ more, above = first :: more := by
  cases rest with
  | nil => simp [parents] at h
  | cons next rest =>
    simp only [parents, List.mem_cons, List.mem_map] at h
    rcases h with rfl | ⟨more, -, rfl⟩
    · exact ⟨[], rfl⟩
    · exact ⟨more, rfl⟩

theorem only_insert (t : Tree) (mailbox first : String) (rest : List String) (kind : NodeKind)
    (h : first ≠ mailbox) : (t.insert (first :: rest) kind).only mailbox = t.only mailbox := by
  have hparents : ∀ paths : List (List String), (∀ above ∈ paths, ∃ more, above = first :: more) →
      ∀ u : Tree, (paths.foldl (fun u above => u.add above .directory) u).only mailbox =
        u.only mailbox := by
    intro paths
    induction paths with
    | nil => intro _ u; rfl
    | cons above paths ih =>
      intro hall u
      obtain ⟨more, rfl⟩ := hall above List.mem_cons_self
      rw [List.foldl_cons, ih (fun path hpath => hall path (List.mem_cons_of_mem _ hpath)),
        only_add _ _ _ _ _ h]
  rw [insert, only_add _ _ _ _ _ h, hparents _ (head_of_mem_parents first rest)]

theorem only_erase (t : Tree) (mailbox first : String) (rest : List String) (h : first ≠ mailbox) :
    (t.erase (first :: rest)).only mailbox = t.only mailbox := by
  simp only [only, erase, List.filter_filter, Tree.mk.injEq]
  refine List.filter_congr fun node _ => ?_
  cases hpath : node.1 with
  | nil => simp
  | cons other more =>
    by_cases hother : other = mailbox
    · subst hother
      simp [List.isPrefixOf, h]
    · simp [hother]

end Tree

/-- A path is created, with the directories above it, or deleted, with all below it. -/
inductive Edit where
  | create (path : List String) (kind : NodeKind)
  | delete (path : List String)
  deriving DecidableEq, Repr

def Edit.path : Edit → List String
  | create path _ => path
  | delete path => path

def Edit.apply (t : Tree) : Edit → Tree
  | create path kind => t.insert path kind
  | delete path => t.erase path

/-- The path of the edit begins with another name. -/
def Edit.Outside (mailbox : String) (e : Edit) : Prop :=
  ∃ first rest, e.path = first :: rest ∧ first ≠ mailbox

theorem Edit.Outside.only {mailbox : String} {e : Edit} (h : e.Outside mailbox) (t : Tree) :
    (e.apply t).only mailbox = t.only mailbox := by
  obtain ⟨first, rest, hpath, hfirst⟩ := h
  cases e with
  | create path kind =>
    obtain rfl : path = first :: rest := hpath
    exact t.only_insert mailbox first rest kind hfirst
  | delete path =>
    obtain rfl : path = first :: rest := hpath
    exact t.only_erase mailbox first rest hfirst

theorem only_edited (mailbox : String) (edits : List Edit) (h : ∀ e ∈ edits, e.Outside mailbox)
    (t : Tree) : (edits.foldl Edit.apply t).only mailbox = t.only mailbox := by
  induction edits generalizing t with
  | nil => rfl
  | cons e edits ih =>
    have hrest := ih (fun d hd => h d (List.mem_cons_of_mem e hd)) (e.apply t)
    rw [List.foldl_cons, hrest, (h e List.mem_cons_self).only t]

/-! ## What a mailbox reports -/

/-- A name that is accepted and is no dot leads to the entry of that name below the root. -/
theorem walk_mailbox (t : Tree) (mailbox : String) (h : accepts mailbox = true) (hdot : mailbox ≠ ".") :
    t.walk [] [mailbox] = if Tree.maxName < mailbox.utf8ByteSize then .blocked
      else match t.kind? [mailbox] with
        | some kind => .place [mailbox] kind
        | none => .missing := by
  simp only [accepts, Bool.and_eq_true, Bool.not_eq_true', bne_iff_ne] at h
  have hempty : mailbox ≠ "" := by
    rintro rfl
    simp at h
  rw [Tree.walk, if_neg (by simp [hempty, hdot]), if_neg h.2, List.nil_append]
  split
  · rfl
  · cases t.kind? [mailbox] with
    | none => rfl
    | some kind => cases kind <;> rfl

theorem list_only (t : Tree) (mailbox : String) (h : accepts mailbox = true) (hdot : mailbox ≠ ".") :
    (t.only mailbox).list [mailbox] = t.list [mailbox] := by
  have hkind := t.kind?_only mailbox
  rw [Tree.list, Tree.list, walk_mailbox _ _ h hdot, walk_mailbox _ _ h hdot, hkind]
  by_cases hlong : Tree.maxName < mailbox.utf8ByteSize
  · simp only [if_pos hlong]
  · simp only [if_neg hlong]
    cases t.kind? [mailbox] with
    | none => rfl
    | some kind =>
      cases kind with
      | file => rfl
      | directory => exact congrArg Listing.entries (t.children_only mailbox)

theorem stat_only (t : Tree) (mailbox : String) (hdot : mailbox ≠ ".") :
    stat ((t.only mailbox).listMailbox []) mailbox = stat (t.listMailbox []) mailbox := by
  simp only [stat]
  split
  · next h =>
    have hlist := list_only t mailbox h hdot
    rw [Tree.listMailbox, Tree.listMailbox, List.nil_append, hlist]
  · rfl

/-- A single dot leads to the root. -/
theorem stat_dot (t : Tree) : stat (t.listMailbox []) "." = countMessages (t.children []) := by
  have hlist : t.listMailbox [] "." = .entries (t.children []) := by
    have hshort : (["."].any (fun step => step.toList.contains '\x00') ||
        decide (Tree.maxPath < Tree.pathSize ["."])) = false := by decide +kernel
    rw [Tree.listMailbox, List.nil_append, if_neg (by rw [hshort]; decide)]
    rfl
  rw [stat, if_pos (by decide +kernel), hlist]
  rfl

/-! ## Isolation -/

/-- A render asks for the counts of its own mailbox only. -/
theorem render_congr (s : Subscription) (change : Subscription.Change)
    (mail later : String → Mailbox.Counts) (h : mail s.resourceKey = later s.resourceKey) :
    s.render change mail = s.render change later := by
  simp only [Subscription.render, h]

/-- What the mailbox reports depends on its own part of the spool only, and neither that nor what its
subscribers are told changes with edits elsewhere. -/
structure Isolated (mailbox : String) : Prop where
  own : ∀ t : Tree, stat (t.listMailbox []) mailbox = stat ((t.only mailbox).listMailbox []) mailbox
  edited : ∀ (t : Tree) (edits : List Edit), (∀ e ∈ edits, e.Outside mailbox) →
    stat ((edits.foldl Edit.apply t).listMailbox []) mailbox = stat (t.listMailbox []) mailbox
  told : ∀ (t : Tree) (edits : List Edit), (∀ e ∈ edits, e.Outside mailbox) →
    ∀ (s : Subscription) (change : Subscription.Change), s.resourceKey = mailbox →
      s.render change (stat ((edits.foldl Edit.apply t).listMailbox [])) =
        s.render change (stat (t.listMailbox []))

/-- A mailbox is isolated from all others exactly if its name is not a single dot. Under that name the
messages that stand in the root itself are counted. -/
theorem isolated_iff (mailbox : String) : (Isolated mailbox ↔ mailbox ≠ ".") ∧
    (mailbox = "." → ∀ t : Tree, stat (t.listMailbox []) mailbox = countMessages (t.children [])) := by
  refine ⟨⟨?_, fun hdot => ?_⟩, ?_⟩
  · rintro hisolated rfl
    have hcreated := hisolated.edited {} [.create ["nvm-1"] .file]
      (by simp [Edit.Outside, Edit.path])
    rw [stat_dot, stat_dot] at hcreated
    exact absurd hcreated (by decide +kernel)
  · have hedited : ∀ (t : Tree) (edits : List Edit), (∀ e ∈ edits, e.Outside mailbox) →
        stat ((edits.foldl Edit.apply t).listMailbox []) mailbox =
          stat (t.listMailbox []) mailbox := by
      intro t edits houtside
      rw [← stat_only _ _ hdot, only_edited mailbox edits houtside t, stat_only _ _ hdot]
    refine ⟨fun t => (stat_only t mailbox hdot).symm, hedited, ?_⟩
    rintro t edits houtside s change rfl
    exact render_congr s change _ _ (hedited t edits houtside)
  · rintro rfl
    exact stat_dot

/-- A request for such a mailbox is taken, and a message put into the root shows in what it reports. -/
theorem root_reported :
    Subscription.resourceOf? "sip:.@pbx" = some "." ∧ (Edit.create ["nvm-1"] .file).Outside "." ∧
      stat (Tree.listMailbox {} []) "." = ⟨0, 0⟩ ∧
      stat (((Edit.create ["nvm-1"] .file).apply {}).listMailbox []) "." = ⟨1, 1⟩ := by
  refine ⟨by decide +kernel, ⟨"nvm-1", [], rfl, by decide⟩, by decide +kernel, by decide +kernel⟩

end SipNotifier.Spool
