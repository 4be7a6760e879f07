import StaticHttp.Files.Tree
import StaticHttp.Proofs.Text.Legible

/-!
# What a tree says when it refuses a path

A path may hold anything, controls included, but it is quoted in what is said about it.  So whatever
path a tree refuses to read or to open, its message has no control in it.

    t.read path = .error f → f.message.Legible                          (Tree.legible_read)
    t.openAppend path = .error f → f.message.Legible                    (Tree.legible_openAppend)
-/

namespace StaticHttp

theorem PathError.legible_message (e : PathError) (path : Text) :
    (Failure.system (e.about path)).message.Legible := by
  have hreason : e.reason.Legible := by cases e <;> decide
  have hnumber := Text.legible_ofInt e.number
  have hpath := Text.legible_quoted path
  have hopen : ("[Errno " : Text).Legible := by decide
  have hclose : ("] " : Text).Legible := by decide
  have hcolon : (": " : Text).Legible := by decide
  simp only [Failure.message, SystemError.message, PathError.about, Text.legible_append_iff]
  exact ⟨⟨⟨⟨hopen, hnumber⟩, hclose⟩, hreason⟩, hcolon, hpath⟩

theorem Failure.legible_encodeFaultText (fault : Utf8.EncodeFault) :
    (encodeFaultText fault).Legible := by
  have hcode := Text.legible_hex 4 fault.first.val
  have hstart := Text.legible_ofNat fault.start
  have hstop := Text.legible_ofNat (fault.stop - 1)
  unfold encodeFaultText
  simp only [Text.legible_append_iff]
  refine ⟨⟨by decide, ?_⟩, by decide⟩
  split
  · simp only [Text.legible_append_iff]
    exact ⟨⟨⟨by decide, hcode⟩, by decide⟩, hstart⟩
  · simp only [Text.legible_append_iff]
    exact ⟨⟨⟨by decide, hstart⟩, by decide⟩, hstop⟩

namespace Tree

variable {t : Tree} {path : Text} {f : Failure}

theorem legible_find (h : t.find path = .error f) : f.message.Legible := by
  unfold find at h
  split at h
  · next g hbytes =>
    cases h
    unfold pathBytes at hbytes
    split at hbytes
    · cases hbytes
      exact Failure.legible_encodeFaultText _
    · split at hbytes
      · cases hbytes
        decide
      · cases hbytes
  · split at h
    · next e _ =>
      cases h
      exact e.legible_message path
    · cases h

theorem legible_read (h : t.read path = .error f) : f.message.Legible := by
  unfold read at h
  split at h
  · next hfind =>
    cases h
    exact legible_find hfind
  · cases h
    exact PathError.missing.legible_message path
  · cases h
    exact PathError.isFolder.legible_message path
  · cases h
  · cases h
  · cases h
    exact PathError.tooManyLinks.legible_message path

theorem legible_openAppend (h : t.openAppend path = .error f) : f.message.Legible := by
  unfold openAppend at h
  split at h
  · next hfind =>
    cases h
    exact legible_find hfind
  · cases h
  · cases h
    exact PathError.isFolder.legible_message path
  · cases h
    exact PathError.tooManyLinks.legible_message path
  · cases h

end Tree

end StaticHttp
