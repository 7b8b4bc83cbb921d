import EventCamera.Proofs.Header.Framing
import EventCamera.Proofs.Recording.Writing

/-!
# Where the words of a recording begin

Of what a writer is given, the serial number goes into the header as it is. If it stands on one
line, the header of a recording ends where its words begin. A line feed in it begins another line,
and what that line says decides where a reader takes the header to end, and which size it has.

## Main results

* `header_ends_where_words_begin_iff` — the serial numbers with which a header is read whole
* `header_ends_within_serial_number` — one with which it is not
-/

namespace EventCamera

open Header (furtherLines keyOf Continues)

namespace WriterOptions

variable {o : WriterOptions}

/-- Of the values of a recording's header, only the serial number may stand on several lines. -/
theorem forall_furtherLines_iff (o : WriterOptions) (now : DateTime) (p : List Char → Prop) :
    (∀ line ∈ (o.header now).lines now, ∀ further ∈ furtherLines line.2, p further) ↔
      ∀ further ∈ furtherLines o.serialNumber.toList, p further := by
  constructor
  · intro hall
    exact hall (.serialNumber, o.serialNumber.toList) (Header.mem_lines rfl)
  · rintro hall ⟨key, value⟩ hline further hfurther
    have hvalue := Header.value?_of_mem_lines hline
    by_cases hkey : key = .serialNumber
    · subst hkey
      cases hvalue
      exact hall further hfurther
    · rw [Header.furtherLines_of_not_mem (Header.feed_not_mem_value_forRecording hkey hvalue)]
        at hfurther
      exact absurd hfurther List.not_mem_nil

end WriterOptions

theorem Writer.isAddressable_of_create {o : WriterOptions} {now : DateTime} {w : Writer}
    (hcreate : create o now {} = .ok w) : o.size.isAddressable = true := by
  by_contra hfits
  rw [create, WriterOptions.check, if_neg hfits] at hcreate
  cases hcreate

/-- The header of a recording ends where the words of its events begin if and only if it goes on
behind each line of the serial number but the first. A serial number on one line has no others. -/
theorem header_ends_where_words_begin_iff {o : WriterOptions} {now : DateTime} {w : Writer}
    (hcreate : Writer.create o now {} = .ok w) (hformat : o.format = .evt3)
    (batches : List (List Event)) :
    let recording := (w.writeAll batches).writer.finish.writer.accepted
    (w.writeAll batches).result = .ok () ∧ (w.writeAll batches).writer.finish.result = .ok () ∧
      recording.data.toList = w.headerBytes.data.toList ++ o.payload batches.flatten ∧
      ∀ source : Source, source.IsPlain → source.content = recording.data.toList →
        ∃ h, (Header.read source).result = .ok h ∧
          ((Header.read source).consumed = w.headerBytes.size ∧
              (Header.read source).source.content = o.payload batches.flatten ↔
            ∀ line ∈ furtherLines o.serialNumber.toList, Continues line) ∧
          ((∀ line ∈ furtherLines o.serialNumber.toList,
              Continues line ∧ keyOf line ≠ some .geometry ∧ keyOf line ≠ some .evt) →
            h.size = o.size ∧ h.payloadFormat = o.format) ∧
          ('\n' ∉ o.serialNumber.toList →
            (Header.read source).consumed = w.headerBytes.size ∧
              (Header.read source).source.content = o.payload batches.flatten ∧
              h.size = o.size ∧ h.payloadFormat = o.format) := by
  intro recording
  have hfits := Writer.isAddressable_of_create hcreate
  obtain ⟨hw, -⟩ := Writer.written_of_create hcreate
  obtain ⟨hwrite, hwritten⟩ := hw.writeAllInto hformat [] batches
  obtain ⟨hfinish, hall⟩ := hwritten.finish hformat
  have hheader : w.headerBytes.data.toList = Utf8.encode ((o.header now).render now) := by
    rw [Writer.toList_headerBytes, hw.header, hw.clock]
  have hlength : w.headerBytes.size = (Utf8.encode ((o.header now).render now)).length := by
    rw [← hheader, length_toList_data]
  have hrecording : recording.data.toList =
      w.headerBytes.data.toList ++ o.payload batches.flatten := by
    rw [hheader]
    exact hall
  refine ⟨hwrite, hfinish, hrecording, ?_⟩
  intro source hsource hcontent
  rw [hrecording, hheader] at hcontent
  obtain ⟨h, hread, hwhole, hsize⟩ :=
    Header.read_of_render_iff (o.header now) now hfits hsource hcontent
  rw [o.forall_furtherLines_iff now] at hwhole
  rw [o.forall_furtherLines_iff now
    fun line => Continues line ∧ keyOf line ≠ some .geometry ∧ keyOf line ≠ some .evt] at hsize
  rw [hlength]
  refine ⟨h, hread, hwhole, hsize, ?_⟩
  intro hserial
  -- There is no line but the first.
  rw [Header.furtherLines_of_not_mem hserial] at hwhole hsize
  obtain ⟨hconsumed, hmore⟩ := hwhole.2 nofun
  exact ⟨hconsumed, hmore, hsize nofun⟩

/-- The second line of the serial number is taken for the name of the software, and the header is
read whole. -/
theorem header_ends_where_words_begin_of_two_lines :
    let o : WriterOptions := { serialNumber := "a\n% plugin_name b" }
    let now : DateTime := ⟨2024, 1, 2, 3, 4, 5, by decide⟩
    ∃ w : Writer, Writer.create o now {} = .ok w ∧
      let source : Source :=
        [.bytes (w.writeAll [[⟨0, 1, 1, 1⟩]]).writer.finish.writer.accepted.data.toList]
      (Header.read source).consumed = w.headerBytes.size ∧
        (Header.read source).source.content = o.payload [⟨0, 1, 1, 1⟩] := by
  intro o now
  have hfits : o.size.isAddressable = true := by decide
  obtain ⟨w, hcreate, -, -⟩ := Writer.exists_create hfits now
  obtain ⟨-, -, -, hread⟩ := header_ends_where_words_begin_iff hcreate rfl [[⟨0, 1, 1, 1⟩]]
  have hnone : Source.IsPlain [] := nofun
  obtain ⟨h, -, hwhole, -⟩ := hread _ (hnone.cons_bytes _) (List.append_nil _)
  exact ⟨w, hcreate, hwhole.2 (by decide)⟩

/-- The second line of the serial number ends the header, and the lines of the header behind it are
left in front of the words. -/
theorem header_ends_within_serial_number :
    let o : WriterOptions := { serialNumber := "a\n% end" }
    let now : DateTime := ⟨2024, 1, 2, 3, 4, 5, by decide⟩
    ∃ w : Writer, Writer.create o now {} = .ok w ∧
      (w.writeAll [[⟨0, 1, 1, 1⟩]]).writer.finish.result = .ok () ∧
      let source : Source :=
        [.bytes (w.writeAll [[⟨0, 1, 1, 1⟩]]).writer.finish.writer.accepted.data.toList]
      (Header.read source).consumed < w.headerBytes.size ∧
        (Header.read source).source.content =
          Utf8.encode "% system_ID 49\n% end\n".toList ++ o.payload [⟨0, 1, 1, 1⟩] := by
  intro o now
  have hfits : o.size.isAddressable = true := by decide
  have hread : (Header.read [.bytes (o.recording now [⟨0, 1, 1, 1⟩])]).consumed <
        (Utf8.encode ((o.header now).render now)).length ∧
      (Header.read [.bytes (o.recording now [⟨0, 1, 1, 1⟩])]).source.content =
        Utf8.encode "% system_ID 49\n% end\n".toList ++ o.payload [⟨0, 1, 1, 1⟩] := by
    decide +kernel
  obtain ⟨w, hcreate, -, hfinish, hall⟩ :=
    Writer.exists_recording hfits rfl now [[⟨0, 1, 1, 1⟩]]
  obtain ⟨hw, -⟩ := Writer.written_of_create hcreate
  have hlength : w.headerBytes.size = (Utf8.encode ((o.header now).render now)).length := by
    rw [← length_toList_data, Writer.toList_headerBytes, hw.header, hw.clock]
  refine ⟨w, hcreate, hfinish, ?_⟩
  rw [hall, hlength]
  exact hread

end EventCamera
