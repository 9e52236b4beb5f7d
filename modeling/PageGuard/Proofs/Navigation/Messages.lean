import PageGuard.Proofs.Navigation.Queues
import PageGuard.Proofs.Rules.Grouping
import PageGuard.Proofs.Rules.Reload

/-!
# Messages are read back

The page and the background exchange messages as JSON texts.  A message comes out of its text as it
went in, whatever strings its candidates hold and whether they have an id or not, and the message
of a report carries the whole queue of candidates.

* `Block.ofValue?_toValue`, `Message.ofValue?_toValue`: a candidate and a message are what their
  values write.
* `Message.readable_toValue`: the value of a message is not too deep to be read.
* `Message.ofText?_toText`: a message is what its text writes.
* `Context.reported_read_back`: the message of a report, from the queue to the reader.
-/

namespace PageGuard

open Json

/-! ## Values -/

theorem RuleType.ofValue?_toValue (t : RuleType) : ofValue? t.toValue = some t := by
  cases t <;> rfl

theorem nullable?_ofOption_string (id : Option String) :
    nullable? Value.string? (Value.ofOption (id.map .string)) = some id := by
  cases id <;> rfl

/-- **A candidate is what its value writes**, with and without an id. -/
theorem Block.ofValue?_toValue (b : Block) : ofValue? b.toValue = some b := by
  obtain ⟨domain, silent, type, source, id, aggressive⟩ := b
  have hfields : fieldValues? fieldNames (toValue ⟨domain, silent, type, source, id, aggressive⟩) =
      some [some (.string domain), some (.bool silent), some type.toValue, some (.string source),
        some (Value.ofOption (id.map .string)), some (.bool aggressive)] := rfl
  rw [ofValue?, hfields]
  simp [required?, withDefault?, RuleType.ofValue?_toValue, nullable?_ofOption_string,
    Value.string?, Value.bool?]

namespace Message

/-- **A message is what its value writes**: the name of its kind tells which message it is, and its
candidates come back one by one. -/
theorem ofValue?_toValue (m : Message) : ofValue? m.toValue = some m := by
  cases m with
  | getDatabase => decide
  | urlsToBlock blocks =>
    have htagged : tagged? (toValue (.urlsToBlock blocks)) =
        some (urlsToBlockName, .object [(blocksField, .array (blocks.map Block.toValue))]) := by
      simp [tagged?, toValue, repeated, lookup?, Value.string?, blocksField]
    have hfields : fieldValues? [blocksField]
        (.object [(blocksField, .array (blocks.map Block.toValue))]) =
          some [some (.array (blocks.map Block.toValue))] := by
      simp [fieldValues?, repeated, lookup?]
    have hblocks : listOf? Block.ofValue? (.array (blocks.map Block.toValue)) = some blocks := by
      rw [listOf?, mapM_map_eq_some (f := id) fun b _ => b.ofValue?_toValue, List.map_id]
    have hname : urlsToBlockName ≠ getDatabaseName := by decide
    simp only [ofValue?, htagged, Option.bind_eq_bind, Option.bind_some, if_neg hname, if_true,
      hfields, required?, hblocks]
    rfl

/-! ## Texts -/

/-- Candidates are one level deep, and a message holds a list of them in its one object. -/
theorem readable_toValue (m : Message) : m.toValue.Readable 3 := by
  cases m with
  | getDatabase => exact ⟨rfl, by decide⟩
  | urlsToBlock blocks =>
    have hid (id : Option String) : (Value.ofOption (id.map .string)).Readable 0 := by
      cases id <;> exact ⟨rfl, Nat.le_refl 0⟩
    have hblock (b : Block) : b.toValue.Readable 1 := by
      refine Value.Readable.object fun p hp => ?_
      simp only [List.mem_cons, List.not_mem_nil, or_false] at hp
      rcases hp with rfl | rfl | rfl | rfl | rfl | rfl
      · exact .string b.domain
      · exact .bool b.silent
      · exact .string b.type.name
      · exact .string b.source
      · exact hid b.id
      · exact .bool b.aggressive
    refine Value.Readable.object fun p hp => ?_
    simp only [List.mem_cons, List.not_mem_nil, or_false] at hp
    rcases hp with rfl | rfl
    · exact .string urlsToBlockName
    · refine Value.Readable.array fun v hv => ?_
      obtain ⟨b, -, rfl⟩ := List.mem_map.1 hv
      exact hblock b

/-- **A message is what its text writes.** -/
theorem ofText?_toText (m : Message) : ofText? m.toText = some m := by
  obtain ⟨hnumberless, hdepth⟩ := m.readable_toValue
  rw [ofText?, toText, ofText?_compact hnumberless (hdepth.trans (by decide)), Option.bind_some,
    ofValue?_toValue]

end Message

/-! ## The message of a report -/

/-- A report has a message exactly when it has candidates, and the message sends these. -/
theorem Report.message?_ofBlocks (l : List Block) :
    (Report.ofBlocks l).message? = if l = [] then none else some (.urlsToBlock l) := by
  cases l <;> rfl

/-- **Messages come out of their texts as they went in, and the message of a report carries the
queue.**  A context with queued candidates, and no other one, has a message to send, and reading its
text gives the queue.  After any operations the queue is the list of the distinct candidates added
since the last draining, in the order in which they first came. -/
theorem Context.reported_read_back :
    (∀ m : Message, Message.ofText? m.toText = some m) ∧
      ∀ {N : Type} [DecidableEq N],
        (∀ c : Context N, (c.report.message?.isSome ↔ c.blocks ≠ []) ∧
          ∀ m, c.report.message? = some m →
            Message.ofText? m.toText = some (.urlsToBlock c.blocks)) ∧
        ∀ ops : List (Op N), (after ops).blocks = (Op.blocks ops).eraseDups ∧
          (after ops).blocks.Nodup := by
  refine ⟨Message.ofText?_toText, fun {N} _ => ⟨fun c => ⟨?_, fun m hm => ?_⟩, fun ops => ?_⟩⟩
  · rw [report, Report.message?_ofBlocks]
    split_ifs with hblocks <;> simp [hblocks]
  · rw [report, Report.message?_ofBlocks] at hm
    obtain ⟨-, heq⟩ := Option.ite_none_left_eq_some.1 hm
    rw [← Option.some.inj heq]
    exact Message.ofText?_toText (.urlsToBlock c.blocks)
  · have hblocks := blocks_after ops
    exact ⟨hblocks, hblocks ▸ nodup_eraseDups _⟩

end PageGuard
