/-!
# Single-byte tables of code pages

The characters of the numbered code pages outside the Windows family, the EBCDIC ones included, by byte.
A table of 128 characters holds the upper half only; its lower half is ASCII. The character FFFE marks
a byte without meaning.
-/

namespace ConfigTokens.Codec

/-- Code page 037. -/
def tableCp037 : String :=
  "\x00\x01\x02\x03\x9c\x09\x86\x7f\x97\x8d\x8e\x0b\x0c\x0d\x0e\x0f\x10\x11\x12\x13\x9d\x85" ++
  "\x08\x87\x18\x19\x92\x8f\x1c\x1d\x1e\x1f\x80\x81\x82\x83\x84\x0a\x17\x1b\x88\x89\x8a\x8b" ++
  "\x8c\x05\x06\x07\x90\x91\x16\x93\x94\x95\x96\x04\x98\x99\x9a\x9b\x14\x15\x9e\x1a\x20\xa0" ++
  "\xe2\xe4\xe0\xe1\xe3\xe5\xe7\xf1\xa2\x2e\x3c\x28\x2b\x7c\x26\xe9\xea\xeb\xe8\xed\xee\xef" ++
  "\xec\xdf\x21\x24\x2a\x29\x3b\xac\x2d\x2f\xc2\xc4\xc0\xc1\xc3\xc5\xc7\xd1\xa6\x2c\x25\x5f" ++
  "\x3e\x3f\xf8\xc9\xca\xcb\xc8\xcd\xce\xcf\xcc\x60\x3a\x23\x40\x27\x3d\x22\xd8abcdefghi" ++
  "\xab\xbb\xf0\xfd\xfe\xb1\xb0jklmnopqr\xaa\xba\xe6\xb8\xc6\xa4\xb5\x7estuvwxyz\xa1\xbf" ++
  "\xd0\xdd\xde\xae\x5e\xa3\xa5\xb7\xa9\xa7\xb6\xbc\xbd\xbe\x5b\x5d\xaf\xa8\xb4\xd7\x7bABCD" ++
  "EFGHI\xad\xf4\xf6\xf2\xf3\xf5\x7dJKLMNOPQR\xb9\xfb\xfc\xf9\xfa\xff\x5c\xf7STUVWXYZ\xb2" ++
  "\xd4\xd6\xd2\xd3\xd50123456789\xb3\xdb\xdc\xd9\xda\x9f"

/-- Code page 1006. -/
def tableCp1006 : String :=
  "\x80\x81\x82\x83\x84\x85\x86\x87\x88\x89\x8a\x8b\x8c\x8d\x8e\x8f\x90\x91\x92\x93\x94\x95" ++
  "\x96\x97\x98\x99\x9a\x9b\x9c\x9d\x9e\x9f\xa0\u06f0\u06f1\u06f2\u06f3\u06f4\u06f5\u06f6" ++
  "\u06f7\u06f8\u06f9\u060c\u061b\xad\u061f\ufe81\ufe8d\ufe8e\ufe8e\ufe8f\ufe91\ufb56\ufb58" ++
  "\ufe93\ufe95\ufe97\ufb66\ufb68\ufe99\ufe9b\ufe9d\ufe9f\ufb7a\ufb7c\ufea1\ufea3\ufea5" ++
  "\ufea7\ufea9\ufb84\ufeab\ufead\ufb8c\ufeaf\ufb8a\ufeb1\ufeb3\ufeb5\ufeb7\ufeb9\ufebb" ++
  "\ufebd\ufebf\ufec1\ufec5\ufec9\ufeca\ufecb\ufecc\ufecd\ufece\ufecf\ufed0\ufed1\ufed3" ++
  "\ufed5\ufed7\ufed9\ufedb\ufb92\ufb94\ufedd\ufedf\ufee0\ufee1\ufee3\ufb9e\ufee5\ufee7" ++
  "\ufe85\ufeed\ufba6\ufba8\ufba9\ufbaa\ufe80\ufe89\ufe8a\ufe8b\ufef1\ufef2\ufef3\ufbb0" ++
  "\ufbae\ufe7c\ufe7d"

/-- Code page 1026. -/
def tableCp1026 : String :=
  "\x00\x01\x02\x03\x9c\x09\x86\x7f\x97\x8d\x8e\x0b\x0c\x0d\x0e\x0f\x10\x11\x12\x13\x9d\x85" ++
  "\x08\x87\x18\x19\x92\x8f\x1c\x1d\x1e\x1f\x80\x81\x82\x83\x84\x0a\x17\x1b\x88\x89\x8a\x8b" ++
  "\x8c\x05\x06\x07\x90\x91\x16\x93\x94\x95\x96\x04\x98\x99\x9a\x9b\x14\x15\x9e\x1a\x20\xa0" ++
  "\xe2\xe4\xe0\xe1\xe3\xe5\x7b\xf1\xc7\x2e\x3c\x28\x2b\x21\x26\xe9\xea\xeb\xe8\xed\xee\xef" ++
  "\xec\xdf\u011e\u0130\x2a\x29\x3b\x5e\x2d\x2f\xc2\xc4\xc0\xc1\xc3\xc5\x5b\xd1\u015f\x2c" ++
  "\x25\x5f\x3e\x3f\xf8\xc9\xca\xcb\xc8\xcd\xce\xcf\xcc\u0131\x3a\xd6\u015e\x27\x3d\xdc\xd8" ++
  "abcdefghi\xab\xbb\x7d\x60\xa6\xb1\xb0jklmnopqr\xaa\xba\xe6\xb8\xc6\xa4\xb5\xf6stuvwxyz" ++
  "\xa1\xbf\x5d\x24\x40\xae\xa2\xa3\xa5\xb7\xa9\xa7\xb6\xbc\xbd\xbe\xac\x7c\xaf\xa8\xb4\xd7" ++
  "\xe7ABCDEFGHI\xad\xf4\x7e\xf2\xf3\xf5\u011fJKLMNOPQR\xb9\xfb\x5c\xf9\xfa\xff\xfc\xf7STUV" ++
  "WXYZ\xb2\xd4\x23\xd2\xd3\xd50123456789\xb3\xdb\x22\xd9\xda\x9f"

/-- Code page 1125. -/
def tableCp1125 : String :=
  "\u0410\u0411\u0412\u0413\u0414\u0415\u0416\u0417\u0418\u0419\u041a\u041b\u041c\u041d" ++
  "\u041e\u041f\u0420\u0421\u0422\u0423\u0424\u0425\u0426\u0427\u0428\u0429\u042a\u042b" ++
  "\u042c\u042d\u042e\u042f\u0430\u0431\u0432\u0433\u0434\u0435\u0436\u0437\u0438\u0439" ++
  "\u043a\u043b\u043c\u043d\u043e\u043f\u2591\u2592\u2593\u2502\u2524\u2561\u2562\u2556" ++
  "\u2555\u2563\u2551\u2557\u255d\u255c\u255b\u2510\u2514\u2534\u252c\u251c\u2500\u253c" ++
  "\u255e\u255f\u255a\u2554\u2569\u2566\u2560\u2550\u256c\u2567\u2568\u2564\u2565\u2559" ++
  "\u2558\u2552\u2553\u256b\u256a\u2518\u250c\u2588\u2584\u258c\u2590\u2580\u0440\u0441" ++
  "\u0442\u0443\u0444\u0445\u0446\u0447\u0448\u0449\u044a\u044b\u044c\u044d\u044e\u044f" ++
  "\u0401\u0451\u0490\u0491\u0404\u0454\u0406\u0456\u0407\u0457\xb7\u221a\u2116\xa4\u25a0" ++
  "\xa0"

/-- Code page 1140. -/
def tableCp1140 : String :=
  "\x00\x01\x02\x03\x9c\x09\x86\x7f\x97\x8d\x8e\x0b\x0c\x0d\x0e\x0f\x10\x11\x12\x13\x9d\x85" ++
  "\x08\x87\x18\x19\x92\x8f\x1c\x1d\x1e\x1f\x80\x81\x82\x83\x84\x0a\x17\x1b\x88\x89\x8a\x8b" ++
  "\x8c\x05\x06\x07\x90\x91\x16\x93\x94\x95\x96\x04\x98\x99\x9a\x9b\x14\x15\x9e\x1a\x20\xa0" ++
  "\xe2\xe4\xe0\xe1\xe3\xe5\xe7\xf1\xa2\x2e\x3c\x28\x2b\x7c\x26\xe9\xea\xeb\xe8\xed\xee\xef" ++
  "\xec\xdf\x21\x24\x2a\x29\x3b\xac\x2d\x2f\xc2\xc4\xc0\xc1\xc3\xc5\xc7\xd1\xa6\x2c\x25\x5f" ++
  "\x3e\x3f\xf8\xc9\xca\xcb\xc8\xcd\xce\xcf\xcc\x60\x3a\x23\x40\x27\x3d\x22\xd8abcdefghi" ++
  "\xab\xbb\xf0\xfd\xfe\xb1\xb0jklmnopqr\xaa\xba\xe6\xb8\xc6\u20ac\xb5\x7estuvwxyz\xa1\xbf" ++
  "\xd0\xdd\xde\xae\x5e\xa3\xa5\xb7\xa9\xa7\xb6\xbc\xbd\xbe\x5b\x5d\xaf\xa8\xb4\xd7\x7bABCD" ++
  "EFGHI\xad\xf4\xf6\xf2\xf3\xf5\x7dJKLMNOPQR\xb9\xfb\xfc\xf9\xfa\xff\x5c\xf7STUVWXYZ\xb2" ++
  "\xd4\xd6\xd2\xd3\xd50123456789\xb3\xdb\xdc\xd9\xda\x9f"

/-- Code page 273. -/
def tableCp273 : String :=
  "\x00\x01\x02\x03\x9c\x09\x86\x7f\x97\x8d\x8e\x0b\x0c\x0d\x0e\x0f\x10\x11\x12\x13\x9d\x85" ++
  "\x08\x87\x18\x19\x92\x8f\x1c\x1d\x1e\x1f\x80\x81\x82\x83\x84\x0a\x17\x1b\x88\x89\x8a\x8b" ++
  "\x8c\x05\x06\x07\x90\x91\x16\x93\x94\x95\x96\x04\x98\x99\x9a\x9b\x14\x15\x9e\x1a\x20\xa0" ++
  "\xe2\x7b\xe0\xe1\xe3\xe5\xe7\xf1\xc4\x2e\x3c\x28\x2b\x21\x26\xe9\xea\xeb\xe8\xed\xee\xef" ++
  "\xec\x7e\xdc\x24\x2a\x29\x3b\x5e\x2d\x2f\xc2\x5b\xc0\xc1\xc3\xc5\xc7\xd1\xf6\x2c\x25\x5f" ++
  "\x3e\x3f\xf8\xc9\xca\xcb\xc8\xcd\xce\xcf\xcc\x60\x3a\x23\xa7\x27\x3d\x22\xd8abcdefghi" ++
  "\xab\xbb\xf0\xfd\xfe\xb1\xb0jklmnopqr\xaa\xba\xe6\xb8\xc6\xa4\xb5\xdfstuvwxyz\xa1\xbf" ++
  "\xd0\xdd\xde\xae\xa2\xa3\xa5\xb7\xa9\x40\xb6\xbc\xbd\xbe\xac\x7c\u203e\xa8\xb4\xd7\xe4AB" ++
  "CDEFGHI\xad\xf4\xa6\xf2\xf3\xf5\xfcJKLMNOPQR\xb9\xfb\x7d\xf9\xfa\xff\xd6\xf7STUVWXYZ\xb2" ++
  "\xd4\x5c\xd2\xd3\xd50123456789\xb3\xdb\x5d\xd9\xda\x9f"

/-- Code page 424. -/
def tableCp424 : String :=
  "\x00\x01\x02\x03\x9c\x09\x86\x7f\x97\x8d\x8e\x0b\x0c\x0d\x0e\x0f\x10\x11\x12\x13\x9d\x85" ++
  "\x08\x87\x18\x19\x92\x8f\x1c\x1d\x1e\x1f\x80\x81\x82\x83\x84\x0a\x17\x1b\x88\x89\x8a\x8b" ++
  "\x8c\x05\x06\x07\x90\x91\x16\x93\x94\x95\x96\x04\x98\x99\x9a\x9b\x14\x15\x9e\x1a\x20" ++
  "\u05d0\u05d1\u05d2\u05d3\u05d4\u05d5\u05d6\u05d7\u05d8\xa2\x2e\x3c\x28\x2b\x7c\x26\u05d9" ++
  "\u05da\u05db\u05dc\u05dd\u05de\u05df\u05e0\u05e1\x21\x24\x2a\x29\x3b\xac\x2d\x2f\u05e2" ++
  "\u05e3\u05e4\u05e5\u05e6\u05e7\u05e8\u05e9\xa6\x2c\x25\x5f\x3e\x3f\ufffe\u05ea\ufffe" ++
  "\ufffe\xa0\ufffe\ufffe\ufffe\u2017\x60\x3a\x23\x40\x27\x3d\x22\ufffeabcdefghi\xab\xbb" ++
  "\ufffe\ufffe\ufffe\xb1\xb0jklmnopqr\ufffe\ufffe\ufffe\xb8\ufffe\xa4\xb5\x7estuvwxyz" ++
  "\ufffe\ufffe\ufffe\ufffe\ufffe\xae\x5e\xa3\xa5\xb7\xa9\xa7\xb6\xbc\xbd\xbe\x5b\x5d\xaf" ++
  "\xa8\xb4\xd7\x7bABCDEFGHI\xad\ufffe\ufffe\ufffe\ufffe\ufffe\x7dJKLMNOPQR\xb9\ufffe\ufffe" ++
  "\ufffe\ufffe\ufffe\x5c\xf7STUVWXYZ\xb2\ufffe\ufffe\ufffe\ufffe\ufffe0123456789\xb3\ufffe" ++
  "\ufffe\ufffe\ufffe\x9f"

/-- Code page 437. -/
def tableCp437 : String :=
  "\xc7\xfc\xe9\xe2\xe4\xe0\xe5\xe7\xea\xeb\xe8\xef\xee\xec\xc4\xc5\xc9\xe6\xc6\xf4\xf6\xf2" ++
  "\xfb\xf9\xff\xd6\xdc\xa2\xa3\xa5\u20a7\u0192\xe1\xed\xf3\xfa\xf1\xd1\xaa\xba\xbf\u2310" ++
  "\xac\xbd\xbc\xa1\xab\xbb\u2591\u2592\u2593\u2502\u2524\u2561\u2562\u2556\u2555\u2563" ++
  "\u2551\u2557\u255d\u255c\u255b\u2510\u2514\u2534\u252c\u251c\u2500\u253c\u255e\u255f" ++
  "\u255a\u2554\u2569\u2566\u2560\u2550\u256c\u2567\u2568\u2564\u2565\u2559\u2558\u2552" ++
  "\u2553\u256b\u256a\u2518\u250c\u2588\u2584\u258c\u2590\u2580\u03b1\xdf\u0393\u03c0\u03a3" ++
  "\u03c3\xb5\u03c4\u03a6\u0398\u03a9\u03b4\u221e\u03c6\u03b5\u2229\u2261\xb1\u2265\u2264" ++
  "\u2320\u2321\xf7\u2248\xb0\u2219\xb7\u221a\u207f\xb2\u25a0\xa0"

/-- Code page 500. -/
def tableCp500 : String :=
  "\x00\x01\x02\x03\x9c\x09\x86\x7f\x97\x8d\x8e\x0b\x0c\x0d\x0e\x0f\x10\x11\x12\x13\x9d\x85" ++
  "\x08\x87\x18\x19\x92\x8f\x1c\x1d\x1e\x1f\x80\x81\x82\x83\x84\x0a\x17\x1b\x88\x89\x8a\x8b" ++
  "\x8c\x05\x06\x07\x90\x91\x16\x93\x94\x95\x96\x04\x98\x99\x9a\x9b\x14\x15\x9e\x1a\x20\xa0" ++
  "\xe2\xe4\xe0\xe1\xe3\xe5\xe7\xf1\x5b\x2e\x3c\x28\x2b\x21\x26\xe9\xea\xeb\xe8\xed\xee\xef" ++
  "\xec\xdf\x5d\x24\x2a\x29\x3b\x5e\x2d\x2f\xc2\xc4\xc0\xc1\xc3\xc5\xc7\xd1\xa6\x2c\x25\x5f" ++
  "\x3e\x3f\xf8\xc9\xca\xcb\xc8\xcd\xce\xcf\xcc\x60\x3a\x23\x40\x27\x3d\x22\xd8abcdefghi" ++
  "\xab\xbb\xf0\xfd\xfe\xb1\xb0jklmnopqr\xaa\xba\xe6\xb8\xc6\xa4\xb5\x7estuvwxyz\xa1\xbf" ++
  "\xd0\xdd\xde\xae\xa2\xa3\xa5\xb7\xa9\xa7\xb6\xbc\xbd\xbe\xac\x7c\xaf\xa8\xb4\xd7\x7bABCD" ++
  "EFGHI\xad\xf4\xf6\xf2\xf3\xf5\x7dJKLMNOPQR\xb9\xfb\xfc\xf9\xfa\xff\x5c\xf7STUVWXYZ\xb2" ++
  "\xd4\xd6\xd2\xd3\xd50123456789\xb3\xdb\xdc\xd9\xda\x9f"

/-- Code page 720. -/
def tableCp720 : String :=
  "\x80\x81\xe9\xe2\x84\xe0\x86\xe7\xea\xeb\xe8\xef\xee\x8d\x8e\x8f\x90\u0651\u0652\xf4\xa4" ++
  "\u0640\xfb\xf9\u0621\u0622\u0623\u0624\xa3\u0625\u0626\u0627\u0628\u0629\u062a\u062b" ++
  "\u062c\u062d\u062e\u062f\u0630\u0631\u0632\u0633\u0634\u0635\xab\xbb\u2591\u2592\u2593" ++
  "\u2502\u2524\u2561\u2562\u2556\u2555\u2563\u2551\u2557\u255d\u255c\u255b\u2510\u2514" ++
  "\u2534\u252c\u251c\u2500\u253c\u255e\u255f\u255a\u2554\u2569\u2566\u2560\u2550\u256c" ++
  "\u2567\u2568\u2564\u2565\u2559\u2558\u2552\u2553\u256b\u256a\u2518\u250c\u2588\u2584" ++
  "\u258c\u2590\u2580\u0636\u0637\u0638\u0639\u063a\u0641\xb5\u0642\u0643\u0644\u0645\u0646" ++
  "\u0647\u0648\u0649\u064a\u2261\u064b\u064c\u064d\u064e\u064f\u0650\u2248\xb0\u2219\xb7" ++
  "\u221a\u207f\xb2\u25a0\xa0"

/-- Code page 737. -/
def tableCp737 : String :=
  "\u0391\u0392\u0393\u0394\u0395\u0396\u0397\u0398\u0399\u039a\u039b\u039c\u039d\u039e" ++
  "\u039f\u03a0\u03a1\u03a3\u03a4\u03a5\u03a6\u03a7\u03a8\u03a9\u03b1\u03b2\u03b3\u03b4" ++
  "\u03b5\u03b6\u03b7\u03b8\u03b9\u03ba\u03bb\u03bc\u03bd\u03be\u03bf\u03c0\u03c1\u03c3" ++
  "\u03c2\u03c4\u03c5\u03c6\u03c7\u03c8\u2591\u2592\u2593\u2502\u2524\u2561\u2562\u2556" ++
  "\u2555\u2563\u2551\u2557\u255d\u255c\u255b\u2510\u2514\u2534\u252c\u251c\u2500\u253c" ++
  "\u255e\u255f\u255a\u2554\u2569\u2566\u2560\u2550\u256c\u2567\u2568\u2564\u2565\u2559" ++
  "\u2558\u2552\u2553\u256b\u256a\u2518\u250c\u2588\u2584\u258c\u2590\u2580\u03c9\u03ac" ++
  "\u03ad\u03ae\u03ca\u03af\u03cc\u03cd\u03cb\u03ce\u0386\u0388\u0389\u038a\u038c\u038e" ++
  "\u038f\xb1\u2265\u2264\u03aa\u03ab\xf7\u2248\xb0\u2219\xb7\u221a\u207f\xb2\u25a0\xa0"

/-- Code page 775. -/
def tableCp775 : String :=
  "\u0106\xfc\xe9\u0101\xe4\u0123\xe5\u0107\u0142\u0113\u0156\u0157\u012b\u0179\xc4\xc5\xc9" ++
  "\xe6\xc6\u014d\xf6\u0122\xa2\u015a\u015b\xd6\xdc\xf8\xa3\xd8\xd7\xa4\u0100\u012a\xf3" ++
  "\u017b\u017c\u017a\u201d\xa6\xa9\xae\xac\xbd\xbc\u0141\xab\xbb\u2591\u2592\u2593\u2502" ++
  "\u2524\u0104\u010c\u0118\u0116\u2563\u2551\u2557\u255d\u012e\u0160\u2510\u2514\u2534" ++
  "\u252c\u251c\u2500\u253c\u0172\u016a\u255a\u2554\u2569\u2566\u2560\u2550\u256c\u017d" ++
  "\u0105\u010d\u0119\u0117\u012f\u0161\u0173\u016b\u017e\u2518\u250c\u2588\u2584\u258c" ++
  "\u2590\u2580\xd3\xdf\u014c\u0143\xf5\xd5\xb5\u0144\u0136\u0137\u013b\u013c\u0146\u0112" ++
  "\u0145\u2019\xad\xb1\u201c\xbe\xb6\xa7\xf7\u201e\xb0\u2219\xb7\xb9\xb3\xb2\u25a0\xa0"

/-- Code page 850. -/
def tableCp850 : String :=
  "\xc7\xfc\xe9\xe2\xe4\xe0\xe5\xe7\xea\xeb\xe8\xef\xee\xec\xc4\xc5\xc9\xe6\xc6\xf4\xf6\xf2" ++
  "\xfb\xf9\xff\xd6\xdc\xf8\xa3\xd8\xd7\u0192\xe1\xed\xf3\xfa\xf1\xd1\xaa\xba\xbf\xae\xac" ++
  "\xbd\xbc\xa1\xab\xbb\u2591\u2592\u2593\u2502\u2524\xc1\xc2\xc0\xa9\u2563\u2551\u2557" ++
  "\u255d\xa2\xa5\u2510\u2514\u2534\u252c\u251c\u2500\u253c\xe3\xc3\u255a\u2554\u2569\u2566" ++
  "\u2560\u2550\u256c\xa4\xf0\xd0\xca\xcb\xc8\u0131\xcd\xce\xcf\u2518\u250c\u2588\u2584\xa6" ++
  "\xcc\u2580\xd3\xdf\xd4\xd2\xf5\xd5\xb5\xfe\xde\xda\xdb\xd9\xfd\xdd\xaf\xb4\xad\xb1\u2017" ++
  "\xbe\xb6\xa7\xf7\xb8\xb0\xa8\xb7\xb9\xb3\xb2\u25a0\xa0"

/-- Code page 852. -/
def tableCp852 : String :=
  "\xc7\xfc\xe9\xe2\xe4\u016f\u0107\xe7\u0142\xeb\u0150\u0151\xee\u0179\xc4\u0106\xc9\u0139" ++
  "\u013a\xf4\xf6\u013d\u013e\u015a\u015b\xd6\xdc\u0164\u0165\u0141\xd7\u010d\xe1\xed\xf3" ++
  "\xfa\u0104\u0105\u017d\u017e\u0118\u0119\xac\u017a\u010c\u015f\xab\xbb\u2591\u2592\u2593" ++
  "\u2502\u2524\xc1\xc2\u011a\u015e\u2563\u2551\u2557\u255d\u017b\u017c\u2510\u2514\u2534" ++
  "\u252c\u251c\u2500\u253c\u0102\u0103\u255a\u2554\u2569\u2566\u2560\u2550\u256c\xa4\u0111" ++
  "\u0110\u010e\xcb\u010f\u0147\xcd\xce\u011b\u2518\u250c\u2588\u2584\u0162\u016e\u2580\xd3" ++
  "\xdf\xd4\u0143\u0144\u0148\u0160\u0161\u0154\xda\u0155\u0170\xfd\xdd\u0163\xb4\xad\u02dd" ++
  "\u02db\u02c7\u02d8\xa7\xf7\xb8\xb0\xa8\u02d9\u0171\u0158\u0159\u25a0\xa0"

/-- Code page 855. -/
def tableCp855 : String :=
  "\u0452\u0402\u0453\u0403\u0451\u0401\u0454\u0404\u0455\u0405\u0456\u0406\u0457\u0407" ++
  "\u0458\u0408\u0459\u0409\u045a\u040a\u045b\u040b\u045c\u040c\u045e\u040e\u045f\u040f" ++
  "\u044e\u042e\u044a\u042a\u0430\u0410\u0431\u0411\u0446\u0426\u0434\u0414\u0435\u0415" ++
  "\u0444\u0424\u0433\u0413\xab\xbb\u2591\u2592\u2593\u2502\u2524\u0445\u0425\u0438\u0418" ++
  "\u2563\u2551\u2557\u255d\u0439\u0419\u2510\u2514\u2534\u252c\u251c\u2500\u253c\u043a" ++
  "\u041a\u255a\u2554\u2569\u2566\u2560\u2550\u256c\xa4\u043b\u041b\u043c\u041c\u043d\u041d" ++
  "\u043e\u041e\u043f\u2518\u250c\u2588\u2584\u041f\u044f\u2580\u042f\u0440\u0420\u0441" ++
  "\u0421\u0442\u0422\u0443\u0423\u0436\u0416\u0432\u0412\u044c\u042c\u2116\xad\u044b\u042b" ++
  "\u0437\u0417\u0448\u0428\u044d\u042d\u0449\u0429\u0447\u0427\xa7\u25a0\xa0"

/-- Code page 856. -/
def tableCp856 : String :=
  "\u05d0\u05d1\u05d2\u05d3\u05d4\u05d5\u05d6\u05d7\u05d8\u05d9\u05da\u05db\u05dc\u05dd" ++
  "\u05de\u05df\u05e0\u05e1\u05e2\u05e3\u05e4\u05e5\u05e6\u05e7\u05e8\u05e9\u05ea\ufffe\xa3" ++
  "\ufffe\xd7\ufffe\ufffe\ufffe\ufffe\ufffe\ufffe\ufffe\ufffe\ufffe\ufffe\xae\xac\xbd\xbc" ++
  "\ufffe\xab\xbb\u2591\u2592\u2593\u2502\u2524\ufffe\ufffe\ufffe\xa9\u2563\u2551\u2557" ++
  "\u255d\xa2\xa5\u2510\u2514\u2534\u252c\u251c\u2500\u253c\ufffe\ufffe\u255a\u2554\u2569" ++
  "\u2566\u2560\u2550\u256c\xa4\ufffe\ufffe\ufffe\ufffe\ufffe\ufffe\ufffe\ufffe\ufffe\u2518" ++
  "\u250c\u2588\u2584\xa6\ufffe\u2580\ufffe\ufffe\ufffe\ufffe\ufffe\ufffe\xb5\ufffe\ufffe" ++
  "\ufffe\ufffe\ufffe\ufffe\ufffe\xaf\xb4\xad\xb1\u2017\xbe\xb6\xa7\xf7\xb8\xb0\xa8\xb7\xb9" ++
  "\xb3\xb2\u25a0\xa0"

/-- Code page 857. -/
def tableCp857 : String :=
  "\xc7\xfc\xe9\xe2\xe4\xe0\xe5\xe7\xea\xeb\xe8\xef\xee\u0131\xc4\xc5\xc9\xe6\xc6\xf4\xf6" ++
  "\xf2\xfb\xf9\u0130\xd6\xdc\xf8\xa3\xd8\u015e\u015f\xe1\xed\xf3\xfa\xf1\xd1\u011e\u011f" ++
  "\xbf\xae\xac\xbd\xbc\xa1\xab\xbb\u2591\u2592\u2593\u2502\u2524\xc1\xc2\xc0\xa9\u2563" ++
  "\u2551\u2557\u255d\xa2\xa5\u2510\u2514\u2534\u252c\u251c\u2500\u253c\xe3\xc3\u255a\u2554" ++
  "\u2569\u2566\u2560\u2550\u256c\xa4\xba\xaa\xca\xcb\xc8\ufffe\xcd\xce\xcf\u2518\u250c" ++
  "\u2588\u2584\xa6\xcc\u2580\xd3\xdf\xd4\xd2\xf5\xd5\xb5\ufffe\xd7\xda\xdb\xd9\xec\xff\xaf" ++
  "\xb4\xad\xb1\ufffe\xbe\xb6\xa7\xf7\xb8\xb0\xa8\xb7\xb9\xb3\xb2\u25a0\xa0"

/-- Code page 858. -/
def tableCp858 : String :=
  "\xc7\xfc\xe9\xe2\xe4\xe0\xe5\xe7\xea\xeb\xe8\xef\xee\xec\xc4\xc5\xc9\xe6\xc6\xf4\xf6\xf2" ++
  "\xfb\xf9\xff\xd6\xdc\xf8\xa3\xd8\xd7\u0192\xe1\xed\xf3\xfa\xf1\xd1\xaa\xba\xbf\xae\xac" ++
  "\xbd\xbc\xa1\xab\xbb\u2591\u2592\u2593\u2502\u2524\xc1\xc2\xc0\xa9\u2563\u2551\u2557" ++
  "\u255d\xa2\xa5\u2510\u2514\u2534\u252c\u251c\u2500\u253c\xe3\xc3\u255a\u2554\u2569\u2566" ++
  "\u2560\u2550\u256c\xa4\xf0\xd0\xca\xcb\xc8\u20ac\xcd\xce\xcf\u2518\u250c\u2588\u2584\xa6" ++
  "\xcc\u2580\xd3\xdf\xd4\xd2\xf5\xd5\xb5\xfe\xde\xda\xdb\xd9\xfd\xdd\xaf\xb4\xad\xb1\u2017" ++
  "\xbe\xb6\xa7\xf7\xb8\xb0\xa8\xb7\xb9\xb3\xb2\u25a0\xa0"

/-- Code page 860. -/
def tableCp860 : String :=
  "\xc7\xfc\xe9\xe2\xe3\xe0\xc1\xe7\xea\xca\xe8\xcd\xd4\xec\xc3\xc2\xc9\xc0\xc8\xf4\xf5\xf2" ++
  "\xda\xf9\xcc\xd5\xdc\xa2\xa3\xd9\u20a7\xd3\xe1\xed\xf3\xfa\xf1\xd1\xaa\xba\xbf\xd2\xac" ++
  "\xbd\xbc\xa1\xab\xbb\u2591\u2592\u2593\u2502\u2524\u2561\u2562\u2556\u2555\u2563\u2551" ++
  "\u2557\u255d\u255c\u255b\u2510\u2514\u2534\u252c\u251c\u2500\u253c\u255e\u255f\u255a" ++
  "\u2554\u2569\u2566\u2560\u2550\u256c\u2567\u2568\u2564\u2565\u2559\u2558\u2552\u2553" ++
  "\u256b\u256a\u2518\u250c\u2588\u2584\u258c\u2590\u2580\u03b1\xdf\u0393\u03c0\u03a3\u03c3" ++
  "\xb5\u03c4\u03a6\u0398\u03a9\u03b4\u221e\u03c6\u03b5\u2229\u2261\xb1\u2265\u2264\u2320" ++
  "\u2321\xf7\u2248\xb0\u2219\xb7\u221a\u207f\xb2\u25a0\xa0"

/-- Code page 861. -/
def tableCp861 : String :=
  "\xc7\xfc\xe9\xe2\xe4\xe0\xe5\xe7\xea\xeb\xe8\xd0\xf0\xde\xc4\xc5\xc9\xe6\xc6\xf4\xf6\xfe" ++
  "\xfb\xdd\xfd\xd6\xdc\xf8\xa3\xd8\u20a7\u0192\xe1\xed\xf3\xfa\xc1\xcd\xd3\xda\xbf\u2310" ++
  "\xac\xbd\xbc\xa1\xab\xbb\u2591\u2592\u2593\u2502\u2524\u2561\u2562\u2556\u2555\u2563" ++
  "\u2551\u2557\u255d\u255c\u255b\u2510\u2514\u2534\u252c\u251c\u2500\u253c\u255e\u255f" ++
  "\u255a\u2554\u2569\u2566\u2560\u2550\u256c\u2567\u2568\u2564\u2565\u2559\u2558\u2552" ++
  "\u2553\u256b\u256a\u2518\u250c\u2588\u2584\u258c\u2590\u2580\u03b1\xdf\u0393\u03c0\u03a3" ++
  "\u03c3\xb5\u03c4\u03a6\u0398\u03a9\u03b4\u221e\u03c6\u03b5\u2229\u2261\xb1\u2265\u2264" ++
  "\u2320\u2321\xf7\u2248\xb0\u2219\xb7\u221a\u207f\xb2\u25a0\xa0"

/-- Code page 862. -/
def tableCp862 : String :=
  "\u05d0\u05d1\u05d2\u05d3\u05d4\u05d5\u05d6\u05d7\u05d8\u05d9\u05da\u05db\u05dc\u05dd" ++
  "\u05de\u05df\u05e0\u05e1\u05e2\u05e3\u05e4\u05e5\u05e6\u05e7\u05e8\u05e9\u05ea\xa2\xa3" ++
  "\xa5\u20a7\u0192\xe1\xed\xf3\xfa\xf1\xd1\xaa\xba\xbf\u2310\xac\xbd\xbc\xa1\xab\xbb\u2591" ++
  "\u2592\u2593\u2502\u2524\u2561\u2562\u2556\u2555\u2563\u2551\u2557\u255d\u255c\u255b" ++
  "\u2510\u2514\u2534\u252c\u251c\u2500\u253c\u255e\u255f\u255a\u2554\u2569\u2566\u2560" ++
  "\u2550\u256c\u2567\u2568\u2564\u2565\u2559\u2558\u2552\u2553\u256b\u256a\u2518\u250c" ++
  "\u2588\u2584\u258c\u2590\u2580\u03b1\xdf\u0393\u03c0\u03a3\u03c3\xb5\u03c4\u03a6\u0398" ++
  "\u03a9\u03b4\u221e\u03c6\u03b5\u2229\u2261\xb1\u2265\u2264\u2320\u2321\xf7\u2248\xb0" ++
  "\u2219\xb7\u221a\u207f\xb2\u25a0\xa0"

/-- Code page 863. -/
def tableCp863 : String :=
  "\xc7\xfc\xe9\xe2\xc2\xe0\xb6\xe7\xea\xeb\xe8\xef\xee\u2017\xc0\xa7\xc9\xc8\xca\xf4\xcb" ++
  "\xcf\xfb\xf9\xa4\xd4\xdc\xa2\xa3\xd9\xdb\u0192\xa6\xb4\xf3\xfa\xa8\xb8\xb3\xaf\xce\u2310" ++
  "\xac\xbd\xbc\xbe\xab\xbb\u2591\u2592\u2593\u2502\u2524\u2561\u2562\u2556\u2555\u2563" ++
  "\u2551\u2557\u255d\u255c\u255b\u2510\u2514\u2534\u252c\u251c\u2500\u253c\u255e\u255f" ++
  "\u255a\u2554\u2569\u2566\u2560\u2550\u256c\u2567\u2568\u2564\u2565\u2559\u2558\u2552" ++
  "\u2553\u256b\u256a\u2518\u250c\u2588\u2584\u258c\u2590\u2580\u03b1\xdf\u0393\u03c0\u03a3" ++
  "\u03c3\xb5\u03c4\u03a6\u0398\u03a9\u03b4\u221e\u03c6\u03b5\u2229\u2261\xb1\u2265\u2264" ++
  "\u2320\u2321\xf7\u2248\xb0\u2219\xb7\u221a\u207f\xb2\u25a0\xa0"

/-- Code page 864. -/
def tableCp864 : String :=
  "\x00\x01\x02\x03\x04\x05\x06\x07\x08\x09\x0a\x0b\x0c\x0d\x0e\x0f\x10\x11\x12\x13\x14\x15" ++
  "\x16\x17\x18\x19\x1a\x1b\x1c\x1d\x1e\x1f\x20\x21\x22\x23\x24\u066a\x26\x27\x28\x29\x2a" ++
  "\x2b\x2c\x2d\x2e\x2f0123456789\x3a\x3b\x3c\x3d\x3e\x3f\x40ABCDEFGHIJKLMNOPQRSTUVWXYZ\x5b" ++
  "\x5c\x5d\x5e\x5f\x60abcdefghijklmnopqrstuvwxyz\x7b\x7c\x7d\x7e\x7f\xb0\xb7\u2219\u221a" ++
  "\u2592\u2500\u2502\u253c\u2524\u252c\u251c\u2534\u2510\u250c\u2514\u2518\u03b2\u221e" ++
  "\u03c6\xb1\xbd\xbc\u2248\xab\xbb\ufef7\ufef8\ufffe\ufffe\ufefb\ufefc\ufffe\xa0\xad\ufe82" ++
  "\xa3\xa4\ufe84\ufffe\ufffe\ufe8e\ufe8f\ufe95\ufe99\u060c\ufe9d\ufea1\ufea5\u0660\u0661" ++
  "\u0662\u0663\u0664\u0665\u0666\u0667\u0668\u0669\ufed1\u061b\ufeb1\ufeb5\ufeb9\u061f\xa2" ++
  "\ufe80\ufe81\ufe83\ufe85\ufeca\ufe8b\ufe8d\ufe91\ufe93\ufe97\ufe9b\ufe9f\ufea3\ufea7" ++
  "\ufea9\ufeab\ufead\ufeaf\ufeb3\ufeb7\ufebb\ufebf\ufec1\ufec5\ufecb\ufecf\xa6\xac\xf7\xd7" ++
  "\ufec9\u0640\ufed3\ufed7\ufedb\ufedf\ufee3\ufee7\ufeeb\ufeed\ufeef\ufef3\ufebd\ufecc" ++
  "\ufece\ufecd\ufee1\ufe7d\u0651\ufee5\ufee9\ufeec\ufef0\ufef2\ufed0\ufed5\ufef5\ufef6" ++
  "\ufedd\ufed9\ufef1\u25a0\ufffe"

/-- Code page 865. -/
def tableCp865 : String :=
  "\xc7\xfc\xe9\xe2\xe4\xe0\xe5\xe7\xea\xeb\xe8\xef\xee\xec\xc4\xc5\xc9\xe6\xc6\xf4\xf6\xf2" ++
  "\xfb\xf9\xff\xd6\xdc\xf8\xa3\xd8\u20a7\u0192\xe1\xed\xf3\xfa\xf1\xd1\xaa\xba\xbf\u2310" ++
  "\xac\xbd\xbc\xa1\xab\xa4\u2591\u2592\u2593\u2502\u2524\u2561\u2562\u2556\u2555\u2563" ++
  "\u2551\u2557\u255d\u255c\u255b\u2510\u2514\u2534\u252c\u251c\u2500\u253c\u255e\u255f" ++
  "\u255a\u2554\u2569\u2566\u2560\u2550\u256c\u2567\u2568\u2564\u2565\u2559\u2558\u2552" ++
  "\u2553\u256b\u256a\u2518\u250c\u2588\u2584\u258c\u2590\u2580\u03b1\xdf\u0393\u03c0\u03a3" ++
  "\u03c3\xb5\u03c4\u03a6\u0398\u03a9\u03b4\u221e\u03c6\u03b5\u2229\u2261\xb1\u2265\u2264" ++
  "\u2320\u2321\xf7\u2248\xb0\u2219\xb7\u221a\u207f\xb2\u25a0\xa0"

/-- Code page 866. -/
def tableCp866 : String :=
  "\u0410\u0411\u0412\u0413\u0414\u0415\u0416\u0417\u0418\u0419\u041a\u041b\u041c\u041d" ++
  "\u041e\u041f\u0420\u0421\u0422\u0423\u0424\u0425\u0426\u0427\u0428\u0429\u042a\u042b" ++
  "\u042c\u042d\u042e\u042f\u0430\u0431\u0432\u0433\u0434\u0435\u0436\u0437\u0438\u0439" ++
  "\u043a\u043b\u043c\u043d\u043e\u043f\u2591\u2592\u2593\u2502\u2524\u2561\u2562\u2556" ++
  "\u2555\u2563\u2551\u2557\u255d\u255c\u255b\u2510\u2514\u2534\u252c\u251c\u2500\u253c" ++
  "\u255e\u255f\u255a\u2554\u2569\u2566\u2560\u2550\u256c\u2567\u2568\u2564\u2565\u2559" ++
  "\u2558\u2552\u2553\u256b\u256a\u2518\u250c\u2588\u2584\u258c\u2590\u2580\u0440\u0441" ++
  "\u0442\u0443\u0444\u0445\u0446\u0447\u0448\u0449\u044a\u044b\u044c\u044d\u044e\u044f" ++
  "\u0401\u0451\u0404\u0454\u0407\u0457\u040e\u045e\xb0\u2219\xb7\u221a\u2116\xa4\u25a0\xa0"

/-- Code page 869. -/
def tableCp869 : String :=
  "\ufffe\ufffe\ufffe\ufffe\ufffe\ufffe\u0386\ufffe\xb7\xac\xa6\u2018\u2019\u0388\u2015" ++
  "\u0389\u038a\u03aa\u038c\ufffe\ufffe\u038e\u03ab\xa9\u038f\xb2\xb3\u03ac\xa3\u03ad\u03ae" ++
  "\u03af\u03ca\u0390\u03cc\u03cd\u0391\u0392\u0393\u0394\u0395\u0396\u0397\xbd\u0398\u0399" ++
  "\xab\xbb\u2591\u2592\u2593\u2502\u2524\u039a\u039b\u039c\u039d\u2563\u2551\u2557\u255d" ++
  "\u039e\u039f\u2510\u2514\u2534\u252c\u251c\u2500\u253c\u03a0\u03a1\u255a\u2554\u2569" ++
  "\u2566\u2560\u2550\u256c\u03a3\u03a4\u03a5\u03a6\u03a7\u03a8\u03a9\u03b1\u03b2\u03b3" ++
  "\u2518\u250c\u2588\u2584\u03b4\u03b5\u2580\u03b6\u03b7\u03b8\u03b9\u03ba\u03bb\u03bc" ++
  "\u03bd\u03be\u03bf\u03c0\u03c1\u03c3\u03c2\u03c4\u0384\xad\xb1\u03c5\u03c6\u03c7\xa7" ++
  "\u03c8\u0385\xb0\xa8\u03c9\u03cb\u03b0\u03ce\u25a0\xa0"

/-- Code page 874. -/
def tableCp874 : String :=
  "\u20ac\ufffe\ufffe\ufffe\ufffe\u2026\ufffe\ufffe\ufffe\ufffe\ufffe\ufffe\ufffe\ufffe" ++
  "\ufffe\ufffe\ufffe\u2018\u2019\u201c\u201d\u2022\u2013\u2014\ufffe\ufffe\ufffe\ufffe" ++
  "\ufffe\ufffe\ufffe\ufffe\xa0\u0e01\u0e02\u0e03\u0e04\u0e05\u0e06\u0e07\u0e08\u0e09\u0e0a" ++
  "\u0e0b\u0e0c\u0e0d\u0e0e\u0e0f\u0e10\u0e11\u0e12\u0e13\u0e14\u0e15\u0e16\u0e17\u0e18" ++
  "\u0e19\u0e1a\u0e1b\u0e1c\u0e1d\u0e1e\u0e1f\u0e20\u0e21\u0e22\u0e23\u0e24\u0e25\u0e26" ++
  "\u0e27\u0e28\u0e29\u0e2a\u0e2b\u0e2c\u0e2d\u0e2e\u0e2f\u0e30\u0e31\u0e32\u0e33\u0e34" ++
  "\u0e35\u0e36\u0e37\u0e38\u0e39\u0e3a\ufffe\ufffe\ufffe\ufffe\u0e3f\u0e40\u0e41\u0e42" ++
  "\u0e43\u0e44\u0e45\u0e46\u0e47\u0e48\u0e49\u0e4a\u0e4b\u0e4c\u0e4d\u0e4e\u0e4f\u0e50" ++
  "\u0e51\u0e52\u0e53\u0e54\u0e55\u0e56\u0e57\u0e58\u0e59\u0e5a\u0e5b\ufffe\ufffe\ufffe" ++
  "\ufffe"

/-- Code page 875. -/
def tableCp875 : String :=
  "\x00\x01\x02\x03\x9c\x09\x86\x7f\x97\x8d\x8e\x0b\x0c\x0d\x0e\x0f\x10\x11\x12\x13\x9d\x85" ++
  "\x08\x87\x18\x19\x92\x8f\x1c\x1d\x1e\x1f\x80\x81\x82\x83\x84\x0a\x17\x1b\x88\x89\x8a\x8b" ++
  "\x8c\x05\x06\x07\x90\x91\x16\x93\x94\x95\x96\x04\x98\x99\x9a\x9b\x14\x15\x9e\x1a\x20" ++
  "\u0391\u0392\u0393\u0394\u0395\u0396\u0397\u0398\u0399\x5b\x2e\x3c\x28\x2b\x21\x26\u039a" ++
  "\u039b\u039c\u039d\u039e\u039f\u03a0\u03a1\u03a3\x5d\x24\x2a\x29\x3b\x5e\x2d\x2f\u03a4" ++
  "\u03a5\u03a6\u03a7\u03a8\u03a9\u03aa\u03ab\x7c\x2c\x25\x5f\x3e\x3f\xa8\u0386\u0388\u0389" ++
  "\xa0\u038a\u038c\u038e\u038f\x60\x3a\x23\x40\x27\x3d\x22\u0385abcdefghi\u03b1\u03b2" ++
  "\u03b3\u03b4\u03b5\u03b6\xb0jklmnopqr\u03b7\u03b8\u03b9\u03ba\u03bb\u03bc\xb4\x7estuvwxy" ++
  "z\u03bd\u03be\u03bf\u03c0\u03c1\u03c3\xa3\u03ac\u03ad\u03ae\u03ca\u03af\u03cc\u03cd" ++
  "\u03cb\u03ce\u03c2\u03c4\u03c5\u03c6\u03c7\u03c8\x7bABCDEFGHI\xad\u03c9\u0390\u03b0" ++
  "\u2018\u2015\x7dJKLMNOPQR\xb1\xbd\x1a\u0387\u2019\xa6\x5c\x1aSTUVWXYZ\xb2\xa7\x1a\x1a" ++
  "\xab\xac0123456789\xb3\xa9\x1a\x1a\xbb\x9f"

end ConfigTokens.Codec
