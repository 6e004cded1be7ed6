/-
# Characters of several writing systems

Some characters are used in several scripts, but not in all, or in another script than their own.
The Unicode character database names the scripts of each of them.
-/

import VisualNovel.Text.CharClass

namespace VisualNovel.Text

/-- The characters that are used in exactly the named scripts, where those differ from the script
that they belong to. -/
def sharedCharacters : List CharClass := [
  ⟨["Adlm", "Arab"], written ["204F"]⟩,
  ⟨["Adlm", "Arab", "Gara", "Nkoo", "Rohg", "Syrc", "Thaa", "Yezi"], written ["61F"]⟩,
  ⟨["Adlm", "Arab", "Mand", "Mani", "Ougr", "Phlp", "Rohg", "Sogd", "Syrc"], written ["640"]⟩,
  ⟨["Aghb", "Cher", "Copt", "Cyrl", "Goth", "Grek", "Latn", "Osge", "Syrc", "Tfng", "Todr"],
    written
    ["304"]⟩,
  ⟨["Aghb", "Cher", "Goth", "Latn", "Sunu", "Thai"], written ["331"]⟩,
  ⟨["Aghb", "Latn", "Todr"], written ["35E"]⟩,
  ⟨["Arab", "Copt"], written ["102E0-102FB"]⟩,
  ⟨["Arab", "Gara", "Nkoo", "Rohg", "Syrc", "Thaa", "Yezi"], written ["60C 61B"]⟩,
  ⟨["Arab", "Nkoo"], written ["FD3E-FD3F"]⟩,
  ⟨["Arab", "Rohg"], written ["6D4"]⟩,
  ⟨["Arab", "Syrc"], written ["64B-655 670"]⟩,
  ⟨["Arab", "Syrc", "Thaa"], written ["61C"]⟩,
  ⟨["Arab", "Thaa"], written ["FDF2 FDFD"]⟩,
  ⟨["Arab", "Thaa", "Yezi"], written ["660-669"]⟩,
  ⟨["Armn", "Cyrl", "Dupl", "Goth", "Grek", "Hebr", "Latn", "Perm", "Syrc", "Tale"], written
    ["308"]⟩,
  ⟨["Armn", "Geor", "Glag"], written ["589"]⟩,
  ⟨["Avst", "Cari", "Copt", "Dupl", "Elba", "Geor", "Glag", "Gong", "Goth", "Grek", "Hani",
    "Latn", "Lydi", "Mahj", "Perm", "Shaw"], written
    ["B7"]⟩,
  ⟨["Avst", "Cari", "Geor", "Hung", "Kthi", "Lydi", "Samr"], written ["2E31"]⟩,
  ⟨["Beng"], written ["1CF7"]⟩,
  ⟨["Beng", "Cakm", "Sylo"], written ["9E6-9EF"]⟩,
  ⟨["Beng", "Cyrl", "Deva", "Latn", "Lisu", "Thai", "Toto"], written ["2BC"]⟩,
  ⟨["Beng", "Deva"], written ["1CD5-1CD6 1CD8 1CE1 1CEA 1CED 1CF5-1CF6 A8F1"]⟩,
  ⟨["Beng", "Deva", "Dogr", "Gong", "Gonm", "Gran", "Gujr", "Guru", "Knda", "Limb", "Mahj",
    "Mlym", "Nand", "Orya", "Sind", "Sinh", "Sylo", "Takr", "Taml", "Telu", "Tirh"], written
    ["965"]⟩,
  ⟨["Beng", "Deva", "Dogr", "Gong", "Gonm", "Gran", "Gujr", "Guru", "Knda", "Mahj", "Mlym",
    "Nand", "Orya", "Sind", "Sinh", "Sylo", "Takr", "Taml", "Telu", "Tirh"], written
    ["964"]⟩,
  ⟨["Beng", "Deva", "Gran", "Gujr", "Guru", "Knda", "Latn", "Mlym", "Orya", "Shrd", "Taml",
    "Telu", "Tirh"], written
    ["951"]⟩,
  ⟨["Beng", "Deva", "Gran", "Gujr", "Guru", "Knda", "Latn", "Mlym", "Orya", "Taml", "Telu",
    "Tirh"], written
    ["952"]⟩,
  ⟨["Beng", "Deva", "Gran", "Knda"], written ["1CD0 1CD2"]⟩,
  ⟨["Beng", "Deva", "Gran", "Knda", "Nand", "Orya", "Telu", "Tirh"], written ["1CF2"]⟩,
  ⟨["Bopo", "Hang", "Hani", "Hira", "Kana"], written ["3003 3013 301C-301F 3030 3037 FE45-FE46"]⟩,
  ⟨["Bopo", "Hang", "Hani", "Hira", "Kana", "Yiii"], written
    ["3001-3002 3008-3011 3014-301B 30FB FF61-FF65"]⟩,
  ⟨["Bopo", "Hani"], written ["302A-302D"]⟩,
  ⟨["Bopo", "Latn"], written ["2C7 2C9-2CB 2D9"]⟩,
  ⟨["Bugi", "Java"], written ["A9CF"]⟩,
  ⟨["Buhd", "Hano", "Tagb", "Tglg"], written ["1735-1736"]⟩,
  ⟨["Cakm", "Mymr", "Tale"], written ["1040-1049"]⟩,
  ⟨["Cari", "Geor", "Glag", "Hung", "Lyci", "Orkh"], written ["205A"]⟩,
  ⟨["Cari", "Grek", "Hung", "Mero"], written ["205D"]⟩,
  ⟨["Cher", "Copt", "Cyrl", "Grek", "Latn", "Perm", "Sunu", "Tale"], written ["300"]⟩,
  ⟨["Cher", "Cyrl", "Grek", "Latn", "Osge", "Sunu", "Tale", "Todr"], written ["301"]⟩,
  ⟨["Cher", "Cyrl", "Latn", "Osge"], written ["30B"]⟩,
  ⟨["Cher", "Cyrl", "Latn", "Tfng"], written ["302"]⟩,
  ⟨["Cher", "Dupl", "Kana", "Latn", "Syrc"], written ["323"]⟩,
  ⟨["Cher", "Dupl", "Latn", "Syrc"], written ["324"]⟩,
  ⟨["Cher", "Latn", "Syrc"], written ["330"]⟩,
  ⟨["Cher", "Latn", "Tale"], written ["30C"]⟩,
  ⟨["Copt", "Dupl", "Hebr", "Latn", "Perm", "Syrc", "Tale", "Tfng", "Todr"], written ["307"]⟩,
  ⟨["Copt", "Elba", "Glag", "Goth", "Kana", "Latn"], written ["305"]⟩,
  ⟨["Copt", "Grek"], written ["374-375"]⟩,
  ⟨["Cpmn", "Cprt", "Linb"], written ["10100-10101"]⟩,
  ⟨["Cprt", "Lina", "Linb"], written ["10107-10133"]⟩,
  ⟨["Cprt", "Linb"], written ["10102 10137-1013F"]⟩,
  ⟨["Cyrl", "Glag"], written ["484 487 2E43 A66F"]⟩,
  ⟨["Cyrl", "Grek", "Latn", "Perm"], written ["306"]⟩,
  ⟨["Cyrl", "Latn"], written ["485-486"]⟩,
  ⟨["Cyrl", "Latn", "Todr"], written ["311"]⟩,
  ⟨["Cyrl", "Perm"], written ["483"]⟩,
  ⟨["Cyrl", "Syrc"], written ["1DF8"]⟩,
  ⟨["Deva"], written ["1CD1 1CD4 1CDB 1CDE-1CDF 1CE2-1CE8 1CEB-1CEC 1CEE-1CF1"]⟩,
  ⟨["Deva", "Dogr", "Gujr", "Guru", "Khoj", "Knda", "Kthi", "Mahj", "Mlym", "Modi", "Nand",
    "Sind", "Takr", "Tirh"], written
    ["A830-A832"]⟩,
  ⟨["Deva", "Dogr", "Gujr", "Guru", "Khoj", "Knda", "Kthi", "Mahj", "Modi", "Nand", "Sind",
    "Takr", "Tirh"], written
    ["A833-A835"]⟩,
  ⟨["Deva", "Dogr", "Gujr", "Guru", "Khoj", "Kthi", "Mahj", "Modi", "Sind", "Takr", "Tirh"],
    written
    ["A836-A839"]⟩,
  ⟨["Deva", "Dogr", "Kthi", "Mahj"], written ["966-96F"]⟩,
  ⟨["Deva", "Gran"], written ["1CD3 1CF3 1CF8-1CF9"]⟩,
  ⟨["Deva", "Gran", "Knda"], written ["1CF4"]⟩,
  ⟨["Deva", "Gran", "Latn"], written ["20F0"]⟩,
  ⟨["Deva", "Knda", "Mlym", "Orya", "Taml", "Telu"], written ["1CDA"]⟩,
  ⟨["Deva", "Nand"], written ["1CE9"]⟩,
  ⟨["Deva", "Shrd"], written ["1CD7 1CD9 1CDC-1CDD 1CE0"]⟩,
  ⟨["Deva", "Taml"], written ["A8F3"]⟩,
  ⟨["Dupl"], written ["1BCA0-1BCA3"]⟩,
  ⟨["Dupl", "Latn", "Syrc"], written ["30A"]⟩,
  ⟨["Ethi", "Latn"], written ["30E"]⟩,
  ⟨["Geor", "Glag", "Latn"], written ["10FB"]⟩,
  ⟨["Glag", "Latn", "Sunu", "Syrc", "Thai"], written ["303"]⟩,
  ⟨["Gran", "Taml"], written ["BE6-BF3 11301 11303 1133B-1133C 11FD0-11FD1 11FD3"]⟩,
  ⟨["Grek"], written ["342 345 1DC0-1DC1"]⟩,
  ⟨["Grek", "Latn", "Perm", "Todr"], written ["313"]⟩,
  ⟨["Gujr", "Khoj"], written ["AE6-AEF"]⟩,
  ⟨["Guru", "Mult"], written ["A66-A6F"]⟩,
  ⟨["Hani"], written
    ["3006 303E-303F 3190-319F 31C0-31E5 3220-3247 3280-32B0 32C0-32CB 32FF 3358-3370",
     "337B-337F 33E0-33FE 1D360-1D371 1F250-1F251"]⟩,
  ⟨["Hani", "Hira", "Kana"], written ["303C-303D"]⟩,
  ⟨["Hani", "Latn"], written ["A700-A707"]⟩,
  ⟨["Hani", "Tang"], written ["2FF0-2FFF 31EF"]⟩,
  ⟨["Hira", "Kana"], written ["3031-3035 3099-309C 30A0 30FC FF70 FF9E-FF9F"]⟩,
  ⟨["Kali", "Latn", "Mymr"], written ["A92E"]⟩,
  ⟨["Knda", "Nand"], written ["CE6-CEF"]⟩,
  ⟨["Latn"], written ["363-36F"]⟩,
  ⟨["Latn", "Lisu"], written ["2CD"]⟩,
  ⟨["Latn", "Mong", "Phag"], written ["202F"]⟩,
  ⟨["Latn", "Osge"], written ["358"]⟩,
  ⟨["Latn", "Sunu"], written ["30D 310"]⟩,
  ⟨["Latn", "Sunu", "Syrc"], written ["32D"]⟩,
  ⟨["Latn", "Syrc"], written ["320 325 32E"]⟩,
  ⟨["Latn", "Tfng"], written ["309"]⟩,
  ⟨["Latn", "Thai"], written ["2D7"]⟩,
  ⟨["Mani", "Ougr"], written ["10AF2"]⟩,
  ⟨["Mong", "Phag"], written ["1802-1803 1805"]⟩,
  ⟨["Nand"], written ["1CFA"]⟩,
  ⟨["Syrc"], written ["1DFA"]⟩]

end VisualNovel.Text
