/-
# Resource addresses

Where playback finds the files of a story is derived from names alone: the address is a root, a path
that the kind of resource fixes, and the name. The addresses are the only link to the files, so
their layout is fixed.

Two kinds of names are derived from the paths in the tables. A character's model drops the path, a
prefix and the suffix of variants that share a model, and is in lower case; an animated background
drops the path and a prefix. Each gets a suffix of its own unless it has it already.
-/

import VisualNovel.Text.Lowercase

namespace VisualNovel

/-- The kinds of resources. -/
inductive ResourceKind
  | background
  | music
  | sound
  | emotionSound
  | voice
  | live2dVoice
  | characterModel
  | live2dModel
  | table
  | popup
  | avatar
  | video
  deriving DecidableEq, Repr

namespace Resource

/-- The text without the given prefix, if it starts with it. -/
def dropWord (word text : List Char) : List Char :=
  if word.isPrefixOf text then text.drop word.length else text

/-- The text without the given suffix, if it ends with it. -/
def dropWordEnd (word text : List Char) : List Char :=
  if word.isSuffixOf text then text.take (text.length - word.length) else text

/-- The text with the given suffix, which is not added a second time. -/
def ensureEnd (word text : List Char) : List Char :=
  if word.isSuffixOf text then text else text ++ word

/-- The part of a path behind its last slash. -/
def lastSegment (path : List Char) : List Char :=
  (path.reverse.takeWhile (· != '/')).reverse

/-- The name of a character's model. -/
def characterModel (path : List Char) : List Char :=
  let name := dropWord "CharacterSpine_".toList (lastSegment path)
  ensureEnd "_spr".toList (Text.lowercase (dropWordEnd "ND".toList name))

/-- The name of an animated background. -/
def live2dName (path : List Char) : List Char :=
  ensureEnd "_home".toList (dropWord "SpineBG_Lobby_".toList (lastSegment path))

/-- The path of a resource below the root. -/
def path (name : List Char) : ResourceKind → List Char
  | .background => "/bg/".toList ++ lastSegment name ++ ".jpg".toList
  | .music => '/' :: name ++ ".ogg".toList
  | .sound | .emotionSound => "/Audio/Sound/".toList ++ name ++ ".wav".toList
  | .voice | .live2dVoice => "/Audio/VoiceJp/".toList ++ name ++ ".wav".toList
  | .characterModel =>
    let id := characterModel name
    "/spine/".toList ++ id ++ '/' :: id ++ ".skel".toList
  | .live2dModel => "/spine/".toList ++ name ++ '/' :: name ++ ".skel".toList
  | .table => "/data/".toList ++ name
  | .popup => "/UIs/03_Scenario/04_ScenarioImage/".toList ++ name ++ ".png".toList
  | .avatar => '/' :: name ++ ".png".toList
  | .video => '/' :: name

/-- The root without the slashes at its end. -/
def trimRoot (root : List Char) : List Char :=
  (root.reverse.dropWhile (· == '/')).reverse

/-- The address of a resource. -/
def url (root : String) (kind : ResourceKind) (name : String) : String :=
  String.ofList (trimRoot root.toList ++ path name.toList kind)

end Resource

end VisualNovel
