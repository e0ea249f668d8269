import Mathlib.Logic.Function.Basic
import Shorthand.Proofs.Document.Offset
import Shorthand.Server.Dispatch

/-!
# `Shorthand.Proofs.Server.Documents`: the server's documents are the client's

A client keeps a copy of each document that it has open and tells the server about every
edit. The two never exchange a whole document again after it was opened, so one wrong
offset would separate them for good. `documents_eq_copies` says that they stay the same,
over every run of notifications and for any number of documents.

The client's side is written without the server's functions. A client edits bytes in its
own copy (`Edit`, `Edit.Sent`), counts lines and columns from the left (`Text.cursor`),
and keeps its copies as a function of the identifier (`Copies`). `Client.Step` has one
rule for each notification, and one for a change to a document that the client does not
have open.

- `change_sent`: the server turns its text into the client's copy, one edit at a time;
- `foldl_change_sentAll`: and one notification at a time;
- `notify_step` and `notify_run`: a table of documents that agrees with the client's
  copies agrees with them after a notification, and after any number of them.
-/

set_option autoImplicit false

namespace Shorthand

/-! ### The client -/

/-- An edit of a client in its own copy: other text for the bytes from `start` up to
`stop`, or for all of it. -/
inductive Edit where
  | replace (start stop : Nat) (text : Text)
  | whole (text : Text)

/-- `Edit.Sent copy edit change copy'`: the edit turns `copy` into `copy'`, and the client
sends it as `change`. -/
inductive Edit.Sent (copy : Text) : Edit → Change → Text → Prop where
  | replace {start stop : Nat} {before rest upto after : Text} (text : Text)
      (hle : start ≤ stop) (hstart : Text.Cuts copy start before rest)
      (hstop : Text.Cuts copy stop upto after) :
      Edit.Sent copy (.replace start stop text)
        { range := some ⟨Text.cursor before, Text.cursor upto⟩, text }
        (before ++ text ++ after)
  | whole (text : Text) : Edit.Sent copy (.whole text) { text } text

/-- Edits that go out together, each made in the copy that the one before it left. -/
inductive Edit.SentAll : Text → List Edit → List Change → Text → Prop where
  | nil (copy : Text) : Edit.SentAll copy [] [] copy
  | cons {copy next last : Text} {edit : Edit} {change : Change} {edits : List Edit}
      {changes : List Change} (hsent : Edit.Sent copy edit change next)
      (hrest : Edit.SentAll next edits changes last) :
      Edit.SentAll copy (edit :: edits) (change :: changes) last

/-- The documents that a client has open, by identifier. -/
abbrev Copies := Text → Option Document

namespace Client

/-- What a client may send, and what it has open afterwards. -/
inductive Step : Copies → Notification → Copies → Prop where
  | opened (copies : Copies) (uri : Text) (document : Document) :
      Step copies (.didOpen uri document) (Function.update copies uri (some document))
  | changed {copies : Copies} {uri : Text} {document : Document} (version : Int)
      {edits : List Edit} {changes : List Change} {text : Text}
      (hopen : copies uri = some document)
      (hsent : Edit.SentAll document.text edits changes text) :
      Step copies (.didChange uri version changes)
        (Function.update copies uri (some { document with version, text }))
  /-- A change to a document that is not open may hold anything. -/
  | strayed {copies : Copies} {uri : Text} (version : Int) (changes : List Change)
      (hclosed : copies uri = none) : Step copies (.didChange uri version changes) copies
  | closed (copies : Copies) (uri : Text) :
      Step copies (.didClose uri) (Function.update copies uri none)

/-- Notifications one after another. -/
inductive Run : Copies → List Notification → Copies → Prop where
  | nil (copies : Copies) : Run copies [] copies
  | cons {copies next last : Copies} {n : Notification} {ns : List Notification}
      (hstep : Step copies n next) (hrest : Run next ns last) : Run copies (n :: ns) last

end Client

/-! ### The server -/

/-- The server's text after a change is the client's copy after the edit. -/
theorem change_sent {copy next : Text} {edit : Edit} {change : Change}
    (h : Edit.Sent copy edit change next) : Text.change copy change = next := by
  cases h with
  | replace text hle hstart hstop =>
    have hsplice := Text.splice_cuts hle hstart hstop text
    simp only [Text.change, hstart.offsetAt_cursor, hstop.offsetAt_cursor, hsplice]
  | whole text => rfl

theorem foldl_change_sentAll {copy last : Text} {edits : List Edit} {changes : List Change}
    (h : Edit.SentAll copy edits changes last) : changes.foldl Text.change copy = last := by
  induction h with
  | nil copy => rfl
  | cons hsent hrest ih => rw [List.foldl_cons, change_sent hsent, ih]

namespace Server

/-- The server after notifications. -/
def notifyAll (config : ServerConfig) (files : Files) (server : Server)
    (ns : List Notification) : Server :=
  ns.foldl (fun server n => (server.notify config files n).1) server

/-- The server's table holds the client's copies. -/
def Holds (server : Server) (copies : Copies) : Prop :=
  ∀ uri, server.documents.get? uri = copies uri

variable {config : ServerConfig} {files : Files} {server : Server}

/-- A change to a document that is not open changes nothing, whatever it holds. -/
theorem changeDocument_of_closed {uri : Text} (h : server.documents.get? uri = none)
    (version : Int) (changes : List Change) :
    server.changeDocument uri version changes = server := by
  rw [changeDocument, h]

theorem notify_step {copies next : Copies} {n : Notification} (hstep : Client.Step copies n next)
    (h : server.Holds copies) : (server.notify config files n).1.Holds next := by
  -- Table and copies are compared at one identifier, which may be the one that changed.
  intro other
  cases hstep with
  | opened uri document =>
    simp only [notify, openDocument, Dict.get?_insert, Function.update_apply, h other, eq_comm]
  | @changed uri document version edits changes text hopen hsent =>
    have happly : document.apply changes version = { document with version, text } := by
      rw [Document.apply, foldl_change_sentAll hsent]
    simp only [notify, changeDocument, h uri, hopen, happly, Dict.get?_insert,
      Function.update_apply, h other, eq_comm]
  | strayed version changes hclosed =>
    -- The client has no such copy, so the server has no such document.
    rw [notify, changeDocument_of_closed ((h _).trans hclosed)]
    exact h other
  | closed uri =>
    simp only [notify, closeDocument, Dict.get?_erase, Function.update_apply, h other, eq_comm]

theorem notify_run {copies last : Copies} {ns : List Notification}
    (hrun : Client.Run copies ns last) (h : server.Holds copies) :
    (server.notifyAll config files ns).Holds last := by
  induction hrun generalizing server with
  | nil copies => exact h
  | cons hstep hrest ih => exact ih (notify_step hstep h)

/-- After any run of notifications, from a server without documents and a client without
copies: the server's table has an entry for exactly the documents that the client has
open, and each entry is the client's copy, with its language, its text and the version
that was sent last. A change to any other document leaves the whole server as it is. The
beginning of a run is a run, so all of this holds after each of the notifications. -/
theorem documents_eq_copies (hempty : server.documents = []) {ns : List Notification}
    {copies : Copies} (hrun : Client.Run (fun _ => none) ns copies) :
    (∀ uri, uri ∈ (server.notifyAll config files ns).documents.keys ↔ (copies uri).isSome) ∧
    (∀ uri, (server.notifyAll config files ns).documents.get? uri = copies uri) ∧
    (∀ uri version changes, copies uri = none →
      (server.notifyAll config files ns).notify config files (.didChange uri version changes)
        = (server.notifyAll config files ns, [])) := by
  have hstart : server.Holds fun _ => none := by
    intro uri
    rw [hempty, Dict.get?]
  have hholds : (server.notifyAll config files ns).Holds copies := notify_run hrun hstart
  refine ⟨fun uri => ?_, hholds, fun uri version changes hclosed => ?_⟩
  · rw [Dict.mem_keys_iff, hholds uri]
  · rw [notify, changeDocument_of_closed ((hholds uri).trans hclosed)]

/-- A document with a surrogate pair and a line end of two characters, a notification
with two edits, and a change to a document that was never opened. -/
def twoEdits : List Notification :=
  [.didOpen "a" { language := "html", version := 1, text := "é😀\r\nb" },
    .didChange "a" 2 [{ range := some ⟨⟨0, 1⟩, ⟨0, 3⟩⟩, text := "x" },
      { range := some ⟨⟨1, 0⟩, ⟨1, 1⟩⟩, text := "cd" }],
    .didChange "b" 7 [{ text := "lost" }]]

/-- The client replaces bytes 2 to 6 by one letter, and then bytes 5 to 6 of the new copy
by two. -/
theorem run_twoEdits : ∃ copies : Copies, Client.Run (fun _ => none) twoEdits copies ∧
    copies "a" = some { language := "html", version := 2, text := "éx\r\ncd" } := by
  have hstart : Text.Cuts "é😀\r\nb" 2 "é" "😀\r\nb" :=
    ⟨by decide, by decide, by unfold Text.SplitsBreak; decide⟩
  have hstop : Text.Cuts "é😀\r\nb" 6 "é😀" "\r\nb" :=
    ⟨by decide, by decide, by unfold Text.SplitsBreak; decide⟩
  have hstart' : Text.Cuts ("é".toList ++ "x".toList ++ "\r\nb".toList) 5 "éx\r\n" "b" :=
    ⟨by decide, by decide, by unfold Text.SplitsBreak; decide⟩
  have hstop' : Text.Cuts ("é".toList ++ "x".toList ++ "\r\nb".toList) 6 "éx\r\nb" "" :=
    ⟨by decide, by decide, by unfold Text.SplitsBreak; decide⟩
  -- The second edit is made in the copy that the first one left.
  have hsent := Edit.SentAll.cons (.replace "x" (by decide) hstart hstop)
    (.cons (.replace "cd" (by decide) hstart' hstop') (.nil _))
  exact ⟨_, .cons (.opened _ _ _) (.cons (.changed 2 (Function.update_self _ _ _) hsent)
    (.cons (.strayed 7 _ (by decide)) (.nil _))), by decide⟩

theorem documents_eq_copies_twoEdits :
    (notifyAll { workingDirectory := "/" } ⟨fun _ => none, fun _ => none⟩ {}
      twoEdits).documents.get? "a"
      = some { language := "html", version := 2, text := "éx\r\ncd" } := by
  obtain ⟨copies, hrun, hcopy⟩ := run_twoEdits
  rw [(documents_eq_copies rfl hrun).2.1, hcopy]

end Server

end Shorthand
