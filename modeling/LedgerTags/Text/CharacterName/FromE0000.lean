/-!
# Names of the characters from U+E0000 to U+10FFFF
-/

namespace LedgerTags.Text.CharacterName

/-- The names of the characters from U+E0000 to U+10FFFF, in the short form. -/
def fromE0000 : List String := [
  "@E0001,LANGUAGE TAG,@E0020,TAG SPACE,1EXCLAMATION MARK,1QUOTATION MARK,1NUMBER SIGN",
  "1DOLLAR SIGN,1PERCENT SIGN,1AMPERSAND,1APOSTROPHE,1LEFT PARENTHESIS,1RIGHT PARENTHESIS",
  "1ASTERISK,1PLUS SIGN,1COMMA,1HYPHEN-MINUS,1FULL STOP,1SOLIDUS,1DIGIT ZERO,2ONE,2TWO,2THREE",
  "2FOUR,2FIVE,2SIX,2SEVEN,2EIGHT,2NINE,1COLON,1SEMICOLON,1LESS-THAN SIGN,1EQUALS SIGN",
  "1GREATER-THAN SIGN,1QUESTION MARK,1COMMERCIAL AT,1LATIN CAPITAL LETTER A,4B,4C,4D,4E,4F,4G,4H",
  "4I,4J,4K,4L,4M,4N,4O,4P,4Q,4R,4S,4T,4U,4V,4W,4X,4Y,4Z,1LEFT SQUARE BRACKET,1REVERSE SOLIDUS",
  "1RIGHT SQUARE BRACKET,1CIRCUMFLEX ACCENT,1LOW LINE,1GRAVE ACCENT,1LATIN SMALL LETTER A,4B,4C",
  "4D,4E,4F,4G,4H,4I,4J,4K,4L,4M,4N,4O,4P,4Q,4R,4S,4T,4U,4V,4W,4X,4Y,4Z,1LEFT CURLY BRACKET",
  "1VERTICAL LINE,1RIGHT CURLY BRACKET,1TILDE,CANCEL TAG,@E0100,VARIATION SELECTOR-17",
  "1SELECTOR-18,1SELECTOR-19,1SELECTOR-20,1SELECTOR-21,1SELECTOR-22,1SELECTOR-23,1SELECTOR-24",
  "1SELECTOR-25,1SELECTOR-26,1SELECTOR-27,1SELECTOR-28,1SELECTOR-29,1SELECTOR-30,1SELECTOR-31",
  "1SELECTOR-32,1SELECTOR-33,1SELECTOR-34,1SELECTOR-35,1SELECTOR-36,1SELECTOR-37,1SELECTOR-38",
  "1SELECTOR-39,1SELECTOR-40,1SELECTOR-41,1SELECTOR-42,1SELECTOR-43,1SELECTOR-44,1SELECTOR-45",
  "1SELECTOR-46,1SELECTOR-47,1SELECTOR-48,1SELECTOR-49,1SELECTOR-50,1SELECTOR-51,1SELECTOR-52",
  "1SELECTOR-53,1SELECTOR-54,1SELECTOR-55,1SELECTOR-56,1SELECTOR-57,1SELECTOR-58,1SELECTOR-59",
  "1SELECTOR-60,1SELECTOR-61,1SELECTOR-62,1SELECTOR-63,1SELECTOR-64,1SELECTOR-65,1SELECTOR-66",
  "1SELECTOR-67,1SELECTOR-68,1SELECTOR-69,1SELECTOR-70,1SELECTOR-71,1SELECTOR-72,1SELECTOR-73",
  "1SELECTOR-74,1SELECTOR-75,1SELECTOR-76,1SELECTOR-77,1SELECTOR-78,1SELECTOR-79,1SELECTOR-80",
  "1SELECTOR-81,1SELECTOR-82,1SELECTOR-83,1SELECTOR-84,1SELECTOR-85,1SELECTOR-86,1SELECTOR-87",
  "1SELECTOR-88,1SELECTOR-89,1SELECTOR-90,1SELECTOR-91,1SELECTOR-92,1SELECTOR-93,1SELECTOR-94",
  "1SELECTOR-95,1SELECTOR-96,1SELECTOR-97,1SELECTOR-98,1SELECTOR-99,1SELECTOR-100,1SELECTOR-101",
  "1SELECTOR-102,1SELECTOR-103,1SELECTOR-104,1SELECTOR-105,1SELECTOR-106,1SELECTOR-107",
  "1SELECTOR-108,1SELECTOR-109,1SELECTOR-110,1SELECTOR-111,1SELECTOR-112,1SELECTOR-113",
  "1SELECTOR-114,1SELECTOR-115,1SELECTOR-116,1SELECTOR-117,1SELECTOR-118,1SELECTOR-119",
  "1SELECTOR-120,1SELECTOR-121,1SELECTOR-122,1SELECTOR-123,1SELECTOR-124,1SELECTOR-125",
  "1SELECTOR-126,1SELECTOR-127,1SELECTOR-128,1SELECTOR-129,1SELECTOR-130,1SELECTOR-131",
  "1SELECTOR-132,1SELECTOR-133,1SELECTOR-134,1SELECTOR-135,1SELECTOR-136,1SELECTOR-137",
  "1SELECTOR-138,1SELECTOR-139,1SELECTOR-140,1SELECTOR-141,1SELECTOR-142,1SELECTOR-143",
  "1SELECTOR-144,1SELECTOR-145,1SELECTOR-146,1SELECTOR-147,1SELECTOR-148,1SELECTOR-149",
  "1SELECTOR-150,1SELECTOR-151,1SELECTOR-152,1SELECTOR-153,1SELECTOR-154,1SELECTOR-155",
  "1SELECTOR-156,1SELECTOR-157,1SELECTOR-158,1SELECTOR-159,1SELECTOR-160,1SELECTOR-161",
  "1SELECTOR-162,1SELECTOR-163,1SELECTOR-164,1SELECTOR-165,1SELECTOR-166,1SELECTOR-167",
  "1SELECTOR-168,1SELECTOR-169,1SELECTOR-170,1SELECTOR-171,1SELECTOR-172,1SELECTOR-173",
  "1SELECTOR-174,1SELECTOR-175,1SELECTOR-176,1SELECTOR-177,1SELECTOR-178,1SELECTOR-179",
  "1SELECTOR-180,1SELECTOR-181,1SELECTOR-182,1SELECTOR-183,1SELECTOR-184,1SELECTOR-185",
  "1SELECTOR-186,1SELECTOR-187,1SELECTOR-188,1SELECTOR-189,1SELECTOR-190,1SELECTOR-191",
  "1SELECTOR-192,1SELECTOR-193,1SELECTOR-194,1SELECTOR-195,1SELECTOR-196,1SELECTOR-197",
  "1SELECTOR-198,1SELECTOR-199,1SELECTOR-200,1SELECTOR-201,1SELECTOR-202,1SELECTOR-203",
  "1SELECTOR-204,1SELECTOR-205,1SELECTOR-206,1SELECTOR-207,1SELECTOR-208,1SELECTOR-209",
  "1SELECTOR-210,1SELECTOR-211,1SELECTOR-212,1SELECTOR-213,1SELECTOR-214,1SELECTOR-215",
  "1SELECTOR-216,1SELECTOR-217,1SELECTOR-218,1SELECTOR-219,1SELECTOR-220,1SELECTOR-221",
  "1SELECTOR-222,1SELECTOR-223,1SELECTOR-224,1SELECTOR-225,1SELECTOR-226,1SELECTOR-227",
  "1SELECTOR-228,1SELECTOR-229,1SELECTOR-230,1SELECTOR-231,1SELECTOR-232,1SELECTOR-233",
  "1SELECTOR-234,1SELECTOR-235,1SELECTOR-236,1SELECTOR-237,1SELECTOR-238,1SELECTOR-239",
  "1SELECTOR-240,1SELECTOR-241,1SELECTOR-242,1SELECTOR-243,1SELECTOR-244,1SELECTOR-245",
  "1SELECTOR-246,1SELECTOR-247,1SELECTOR-248,1SELECTOR-249,1SELECTOR-250,1SELECTOR-251",
  "1SELECTOR-252,1SELECTOR-253,1SELECTOR-254,1SELECTOR-255,1SELECTOR-256"]

end LedgerTags.Text.CharacterName
