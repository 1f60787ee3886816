import PubSub.Mirrors
import PubSub.Reference

/-!
# One mirror for each remote party

A host is told by its name, a node by its group and its name, both without regard to case.
Five of the nine handlers may append a mirror, each behind a lookup of its own; the lookups
cover the receiver and the list, and no handler changes what a client is told by.
-/

namespace PubSub
set_option autoImplicit false

/-- What tells the clients of a receiver apart, with their kind. -/
structure Identity where
  isHost : Bool
  group : Str
  name : Str

namespace Identity

/-- The two are of one kind and have the same name, and nodes have the same group. -/
def SameParty (P : Platform) (a b : Identity) : Prop :=
  a.isHost = b.isHost ∧ P.iEquals a.name b.name = true ∧
    (a.isHost = false → P.iEquals a.group b.group = true)

instance (P : Platform) (a b : Identity) : Decidable (SameParty P a b) :=
  inferInstanceAs (Decidable (_ ∧ _ ∧ _))

end Identity

namespace SparkplugNode
variable {P : Platform}

def identity (n : SparkplugNode P) : Identity := ⟨n.isHost, n.group, n.name⟩

theorem identity_onTopics (f : TopicList P → TopicList P) (n : SparkplugNode P) :
    (n.onTopics f).identity = n.identity := rfl

theorem identity_onDevice (device : Str) (f : TopicList P → TopicList P) (n : SparkplugNode P) :
    (n.onDevice device f).identity = n.identity := by
  obtain ⟨devices, hframe⟩ := n.onDevice_frame device f
  rw [hframe]
  rfl

theorem identity_deviceBirth (device : Str) (now : UInt64) (body : BodyList)
    (n : SparkplugNode P) : (Receiver.deviceBirth device now body n).identity = n.identity := by
  obtain ⟨devices, hframe⟩ := Receiver.deviceBirth_frame device now body n
  rw [hframe]
  rfl

end SparkplugNode

/-- What happens to a receiver: a message, or a change that its own threads and its
application make to it. -/
inductive ReceiverEvent (P : Platform) where
  | message (m : Delivery)
  | own (self : SparkplugNode P)

namespace Receiver
variable {P : Platform}

def step (r : Receiver P) : ReceiverEvent P → Receiver P
  | .message m => r.deliver m
  | .own self => { r with self := self }

/-- The receiver keeps its identity. -/
def FixedIdentity (r : Receiver P) : ReceiverEvent P → Prop
  | .message _ => True
  | .own self => self.identity = r.self.identity

/-- The receiver and its mirrors, in the order of the list. -/
def identities (r : Receiver P) : List Identity :=
  r.self.identity :: r.nodeList.map SparkplugNode.identity

/-- The mirrors are different parties, and none of them is the receiver. -/
def OneMirrorEach (r : Receiver P) : Prop :=
  r.identities.Pairwise fun a b => ¬ a.SameParty P b

/-- Nothing is appended, or one party that is new. -/
def Grows (r s : Receiver P) : Prop :=
  s.identities = r.identities ∨
    ∃ a, s.identities = r.identities ++ [a] ∧ ∀ b ∈ r.identities, ¬ b.SameParty P a

theorem Grows.refl (r : Receiver P) : Grows r r := .inl rfl

theorem Grows.trans_same {r s t : Receiver P} (h : Grows r s)
    (hsame : t.identities = s.identities) : Grows r t := by
  unfold Grows
  rw [hsame]
  exact h

theorem Grows.oneMirrorEach {r s : Receiver P} (h : Grows r s) (hr : r.OneMirrorEach) :
    s.OneMirrorEach := by
  unfold OneMirrorEach at hr ⊢
  rcases h with h | ⟨a, h, hnew⟩
  · rw [h]
    exact hr
  · rw [h]
    refine List.pairwise_append.mpr ⟨hr, List.pairwise_singleton _ _, ?_⟩
    intro b hb c hc
    rw [List.mem_singleton.mp hc]
    exact hnew b hb

theorem Grows.isPrefix {r s : Receiver P} (h : Grows r s) : r.identities <+: s.identities := by
  rcases h with h | ⟨a, h, -⟩
  · exact h ▸ List.prefix_refl _
  · exact h ▸ List.prefix_append _ _

/-- What a change keeps of a client is kept in the whole list. -/
theorem nodeList_update {β : Type} {g : SparkplugNode P → β} (target : Target)
    {f : SparkplugNode P → SparkplugNode P} (hf : ∀ n, g (f n) = g n) (r : Receiver P) :
    (r.update target f).nodeList.map g = r.nodeList.map g := by
  cases target with
  | self => rfl
  | remote i =>
    apply List.ext_getElem?
    intro j
    simp only [update, List.getElem?_map, List.getElem?_modify]
    cases r.nodeList[j]? with
    | none => rfl
    | some n =>
      by_cases hij : i = j
      · simp [hij, hf]
      · simp [hij]

theorem identities_update (target : Target) {f : SparkplugNode P → SparkplugNode P}
    (hf : ∀ n, (f n).identity = n.identity) (r : Receiver P) :
    (r.update target f).identities = r.identities := by
  have hself : (r.update target f).self.identity = r.self.identity := by
    cases target with
    | self => exact hf r.self
    | remote i => rfl
  unfold identities
  rw [hself, nodeList_update target hf]

theorem identities_addRemote (n : SparkplugNode P) (r : Receiver P) :
    (r.addRemote n).identities = r.identities ++ [n.identity] := by
  simp [identities, addRemote]

theorem mem_identities {r : Receiver P} {a : Identity} (h : a ∈ r.identities) :
    ∃ n, n.identity = a ∧ (n = r.self ∨ n ∈ r.nodeList) := by
  rcases List.mem_cons.mp h with rfl | h
  · exact ⟨r.self, rfl, .inl rfl⟩
  · obtain ⟨n, hn, rfl⟩ := List.mem_map.mp h
    exact ⟨n, rfl, .inr hn⟩

/-- A lookup of a host that fails leaves out no client. -/
theorem getHost_none {r : Receiver P} {hostName : Str} (h : r.getHost hostName = none)
    {n : SparkplugNode P} (hn : n = r.self ∨ n ∈ r.nodeList) : isHostNamed hostName n = false := by
  unfold getHost at h
  split at h
  · cases h
  · rename_i hself
    rcases hn with rfl | hn
    · exact Bool.eq_false_iff.mpr hself
    · exact List.findIdx?_eq_none_iff.mp (Option.map_eq_none_iff.mp h) n hn

theorem getNode_none {r : Receiver P} {group node : Str} (hgroup : group ≠ []) (hnode : node ≠ [])
    (h : r.getNode group node = none) {n : SparkplugNode P} (hn : n = r.self ∨ n ∈ r.nodeList) :
    isNodeNamed group node n = false := by
  unfold getNode at h
  rw [if_neg (not_or.mpr ⟨hgroup, hnode⟩)] at h
  split at h
  · cases h
  · rename_i hself
    rcases hn with rfl | hn
    · exact Bool.eq_false_iff.mpr hself
    · exact List.findIdx?_eq_none_iff.mp (Option.map_eq_none_iff.mp h) n hn

theorem grows_ensureHost (hostName : Str) (now : UInt64) (r : Receiver P) :
    Grows r (r.ensureHost hostName now) := by
  unfold ensureHost
  cases hfound : r.getHost hostName with
  | some target => exact .refl r
  | none =>
    refine .inr ⟨⟨true, [], hostName⟩, identities_addRemote _ r, ?_⟩
    rintro b hb ⟨hkind, hname, -⟩
    obtain ⟨n, rfl, hn⟩ := mem_identities hb
    have hnot := getHost_none hfound hn
    have hnamed : isHostNamed hostName n = true :=
      Bool.and_eq_true_iff.mpr ⟨hkind, (P.iEquals_iff _ _).mpr ((P.iEquals_iff _ _).mp hname).symm⟩
    rw [hnamed] at hnot
    cases hnot

theorem grows_ensureNode {group node : Str} (hgroup : group ≠ []) (hnode : node ≠ [])
    (now : UInt64) (r : Receiver P) : Grows r (r.ensureNode group node now) := by
  unfold ensureNode
  cases hfound : r.getNode group node with
  | some target => exact .refl r
  | none =>
    refine .inr ⟨⟨false, group, node⟩, identities_addRemote _ r, ?_⟩
    rintro b hb ⟨hkind, hname, hsame⟩
    obtain ⟨n, rfl, hn⟩ := mem_identities hb
    have hnot := getNode_none hgroup hnode hfound hn
    have hnamed : isNodeNamed group node n = true :=
      Bool.and_eq_true_iff.mpr
        ⟨(P.iEquals_iff _ _).mpr ((P.iEquals_iff _ _).mp (hsame hkind)).symm,
          (P.iEquals_iff _ _).mpr ((P.iEquals_iff _ _).mp hname).symm⟩
    rw [hnamed] at hnot
    cases hnot

theorem grows_ensured {r s : Receiver P} {now : UInt64} (h : Ensured r now s) : Grows r s := by
  cases h with
  | known => exact .refl r
  | host _ => exact grows_ensureHost _ now r
  | node hgroup hnode => exact grows_ensureNode hgroup hnode now r

theorem Change.identity {messageType : Str} {now : UInt64} {body : BodyList} {target : Target}
    {f : SparkplugNode P → SparkplugNode P} (h : Change messageType now body target f)
    (n : SparkplugNode P) : (f n).identity = n.identity := by
  cases h with
  | deviceBirth _ device => exact SparkplugNode.identity_deviceBirth device now body n
  | deviceDeath _ device | deviceUpdate _ device => exact SparkplugNode.identity_onDevice device _ n
  | _ => exact SparkplugNode.identity_onTopics _ n

theorem grows_message (topicName : Str) (now : UInt64) (body : BodyList) (r : Receiver P) :
    Grows r (r.message topicName now body) := by
  have heffect := r.effect_message topicName now body
  generalize r.message topicName now body = next at heffect ⊢
  cases heffect with
  | ensured hs => exact grows_ensured hs
  | changed hs hf => exact (grows_ensured hs).trans_same (identities_update _ hf.identity _)

theorem grows_step {r : Receiver P} {e : ReceiverEvent P} (h : r.FixedIdentity e) :
    Grows r (r.step e) := by
  cases e with
  | message m => exact grows_message m.topicName m.now m.body r
  | own self =>
    have hself : self.identity = r.self.identity := h
    refine .inl ?_
    change self.identity :: r.nodeList.map SparkplugNode.identity = r.identities
    rw [hself]
    rfl

theorem identities_prefix {r : Receiver P} {es : List (ReceiverEvent P)}
    (h : RunOk step FixedIdentity r es) : r.identities <+: (run step r es).identities := by
  induction es generalizing r with
  | nil => exact List.prefix_refl _
  | cons e es ih => exact (grows_step h.1).isPrefix.trans (ih h.2)

/-- However many messages arrive, there is one mirror for each remote party and none for the
receiver, and a mirror keeps its place, its kind and its identity. -/
theorem one_mirror_each {r : Receiver P} (hfresh : r.nodeList = [])
    {es : List (ReceiverEvent P)} (hfixed : RunOk step FixedIdentity r es) :
    (run step r es).OneMirrorEach ∧ ∀ pre post, es = pre ++ post →
      (run step r pre).identities <+: (run step r es).identities := by
  constructor
  · have hstart : r.OneMirrorEach := by
      unfold OneMirrorEach identities
      rw [hfresh]
      exact List.pairwise_singleton _ _
    have hstep : ∀ (r : Receiver P) (e : ReceiverEvent P),
        r.OneMirrorEach → r.FixedIdentity e → (r.step e).OneMirrorEach :=
      fun r e hr he => (grows_step he).oneMirrorEach hr
    exact run_invariant hstep hstart hfixed
  · rintro pre post rfl
    rw [run_append]
    exact identities_prefix (runOk_append.mp hfixed).2

/-- A host that receives messages of itself and of a node of the same name. -/
def namesakes : List (ReceiverEvent Platform.reference) :=
  [.message { topicName := str "spBv1.0/STATE/h", now := 1, body := str "\x7b\x7d" },
    .message { topicName := str "spBv1.0/STATE/K", now := 2, body := [] },
    .message { topicName := str "spBv1.0/G/NBIRTH/H", now := 3, body := [] },
    .message { topicName := str "spBv1.0/g/DDATA/h/D", now := 4, body := [] },
    .message { topicName := str "spBv1.0/STATE/k", now := 5, body := [] }]

def namesake : Receiver Platform.reference where
  self := SparkplugHost.createNamed (str "H") 0

theorem namesakes_have_one_mirror_each :
    (run step namesake namesakes).OneMirrorEach ∧ ∀ pre post, namesakes = pre ++ post →
      (run step namesake pre).identities <+: (run step namesake namesakes).identities :=
  one_mirror_each rfl ⟨trivial, trivial, trivial, trivial, trivial, trivial⟩

end Receiver
end PubSub
