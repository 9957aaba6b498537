/-!
The eras of each zone. A zone is a name and six words for each era but the last: the distance of
standard time from universal time, the saving or the label of a set of rules for it, and the year,
month, day and time of the end of the era. The last era has only the first two. Zones end in semicolons.
-/
namespace LookupJoin.Zone

def eraTable : String := "
Africa/Abidjan -0:16:8 0 1912 1 1 0 0 0;
Africa/Algiers 0:12:12 0 1891 3 16 0 0:9:21 0 1911 3 11 0 0 d 1940 2 25 2 1 d 1946 10 7 0 0 0 1956
 1 29 0 1 0 1963 4 14 0 0 d 1977 10 21 0 1 d 1979 10 26 0 0 d 1981 5 1 0 1 0;
Africa/Bissau -1:2:20 0 1912 1 1 1u -1 0 1975 1 1 0 0 0;
Africa/Cairo 2:5:9 0 1900 10 1 0 2 K;
Africa/Casablanca -0:30:20 0 1913 10 26 0 0 M 1984 3 16 0 1 0 1986 1 1 0 0 M 2018 10 28 3 0 M;
Africa/Ceuta -0:21:16 0 1901 1 1 0u 0 0 1918 5 6 23 0 1 1918 10 7 23 0 0 1924 1 1 0 0 s 1929 1 1 0
 0 0 1967 1 1 0 0 Sp 1984 3 16 0 1 0 1986 1 1 0 1 E;
Africa/El_Aaiun -0:52:48 0 1934 1 1 0 -1 0 1976 4 14 0 0 M 2018 10 28 3 0 M;
Africa/Johannesburg 1:52 0 1892 2 8 0 1:30 0 1903 3 1 0 2 SA;
Africa/Juba 2:6:28 0 1931 1 1 0 2 SD 2000 1 15 12 3 0 2021 2 1 0 2 0;
Africa/Khartoum 2:10:8 0 1931 1 1 0 2 SD 2000 1 15 12 3 0 2017 11 1 0 2 0;
Africa/Lagos 0:13:35 0 1905 7 1 0 0 0 1908 7 1 0 0:13:35 0 1914 1 1 0 0:30 0 1919 9 1 0 1 0;
Africa/Maputo 2:10:18 0 1909 1 1 0 2 0;
Africa/Monrovia -0:43:8 0 1882 1 1 0 -0:43:8 0 1919 3 1 0 -0:44:30 0 1972 1 7 0 0 0;
Africa/Nairobi 2:27:16 0 1908 5 1 0 2:30 0 1928 6 30 24 3 0 1930 1 4 24 2:30 0 1936 12 31 24 2:45 0
 1942 7 31 24 3 0;
Africa/Ndjamena 1:0:12 0 1912 1 1 0 1 0 1979 10 14 0 1 1 1980 3 8 0 1 0;
Africa/Sao_Tome 0:26:56 0 1884 1 1 0 -0:36:45 0 1912 1 1 0u 0 0 2018 1 1 1 1 0 2019 1 1 2 0 0;
Africa/Tripoli 0:52:44 0 1920 1 1 0 1 L 1959 1 1 0 2 0 1982 1 1 0 1 L 1990 5 4 0 2 0 1996 9 30 0 1
 L 1997 10 4 0 2 0 2012 11 10 2 1 L 2013 10 25 2 2 0;
Africa/Tunis 0:40:44 0 1881 5 12 0 0:9:21 0 1911 3 11 0 1 n;
Africa/Windhoek 1:8:24 0 1892 2 8 0 1:30 0 1903 3 1 0 2 0 1942 9 20 2 2 1 1943 3 21 2 2 0 1990 3 21
 0 2 0 1994 3 21 0 1 NA 2017 10 24 0 2 0;
America/Adak 12:13:22 0 1867 10 19 12:44:35 -11:46:38 0 1900 8 20 12 -11 0 1942 1 1 0 -11 u 1946 1
 1 0 -11 0 1967 4 1 0 -11 0 1969 1 1 0 -11 u 1983 10 30 2 -10 u 1983 11 30 0 -10 u;
America/Anchorage 14:0:24 0 1867 10 19 14:31:37 -9:59:36 0 1900 8 20 12 -10 0 1942 1 1 0 -10 u 1967
 4 1 0 -10 0 1969 1 1 0 -10 u 1983 10 30 2 -9 u 1983 11 30 0 -9 u;
America/Araguaina -3:12:48 0 1914 1 1 0 -3 B 1990 9 17 0 -3 0 1995 9 14 0 -3 B 2003 9 24 0 -3 0
 2012 10 21 0 -3 B 2013 9 1 0 -3 0;
America/Argentina/Buenos_Aires -3:53:48 0 1894 10 31 0 -4:16:48 0 1920 5 1 0 -4 0 1930 12 1 0 -4 A
 1969 10 5 0 -3 A 1999 10 3 0 -4 A 2000 3 3 0 -3 A;
America/Argentina/Catamarca -4:23:8 0 1894 10 31 0 -4:16:48 0 1920 5 1 0 -4 0 1930 12 1 0 -4 A 1969
 10 5 0 -3 A 1991 3 3 0 -4 0 1991 10 20 0 -3 A 1999 10 3 0 -4 A 2000 3 3 0 -3 0 2004 6 1 0 -4 0
 2004 6 20 0 -3 A 2008 10 18 0 -3 0;
America/Argentina/Cordoba -4:16:48 0 1894 10 31 0 -4:16:48 0 1920 5 1 0 -4 0 1930 12 1 0 -4 A 1969
 10 5 0 -3 A 1991 3 3 0 -4 0 1991 10 20 0 -3 A 1999 10 3 0 -4 A 2000 3 3 0 -3 A;
America/Argentina/Jujuy -4:21:12 0 1894 10 31 0 -4:16:48 0 1920 5 1 0 -4 0 1930 12 1 0 -4 A 1969 10
 5 0 -3 A 1990 3 4 0 -4 0 1990 10 28 0 -4 1 1991 3 17 0 -4 0 1991 10 6 0 -3 1 1992 1 1 0 -3 A 1999
 10 3 0 -4 A 2000 3 3 0 -3 A 2008 10 18 0 -3 0;
America/Argentina/La_Rioja -4:27:24 0 1894 10 31 0 -4:16:48 0 1920 5 1 0 -4 0 1930 12 1 0 -4 A 1969
 10 5 0 -3 A 1991 3 1 0 -4 0 1991 5 7 0 -3 A 1999 10 3 0 -4 A 2000 3 3 0 -3 0 2004 6 1 0 -4 0 2004
 6 20 0 -3 A 2008 10 18 0 -3 0;
America/Argentina/Mendoza -4:35:16 0 1894 10 31 0 -4:16:48 0 1920 5 1 0 -4 0 1930 12 1 0 -4 A 1969
 10 5 0 -3 A 1990 3 4 0 -4 0 1990 10 15 0 -4 1 1991 3 1 0 -4 0 1991 10 15 0 -4 1 1992 3 1 0 -4 0
 1992 10 18 0 -3 A 1999 10 3 0 -4 A 2000 3 3 0 -3 0 2004 5 23 0 -4 0 2004 9 26 0 -3 A 2008 10 18 0
 -3 0;
America/Argentina/Rio_Gallegos -4:36:52 0 1894 10 31 0 -4:16:48 0 1920 5 1 0 -4 0 1930 12 1 0 -4 A
 1969 10 5 0 -3 A 1999 10 3 0 -4 A 2000 3 3 0 -3 0 2004 6 1 0 -4 0 2004 6 20 0 -3 A 2008 10 18 0 -3
 0;
America/Argentina/Salta -4:21:40 0 1894 10 31 0 -4:16:48 0 1920 5 1 0 -4 0 1930 12 1 0 -4 A 1969 10
 5 0 -3 A 1991 3 3 0 -4 0 1991 10 20 0 -3 A 1999 10 3 0 -4 A 2000 3 3 0 -3 A 2008 10 18 0 -3 0;
America/Argentina/San_Juan -4:34:4 0 1894 10 31 0 -4:16:48 0 1920 5 1 0 -4 0 1930 12 1 0 -4 A 1969
 10 5 0 -3 A 1991 3 1 0 -4 0 1991 5 7 0 -3 A 1999 10 3 0 -4 A 2000 3 3 0 -3 0 2004 5 31 0 -4 0 2004
 7 25 0 -3 A 2008 10 18 0 -3 0;
America/Argentina/San_Luis -4:25:24 0 1894 10 31 0 -4:16:48 0 1920 5 1 0 -4 0 1930 12 1 0 -4 A 1969
 10 5 0 -3 A 1990 1 1 0 -3 1 1990 3 14 0 -4 0 1990 10 15 0 -4 1 1991 3 1 0 -4 0 1991 6 1 0 -3 0
 1999 10 3 0 -4 1 2000 3 3 0 -3 0 2004 5 31 0 -4 0 2004 7 25 0 -3 A 2008 1 21 0 -4 Sa 2009 10 11 0
 -3 0;
America/Argentina/Tucuman -4:20:52 0 1894 10 31 0 -4:16:48 0 1920 5 1 0 -4 0 1930 12 1 0 -4 A 1969
 10 5 0 -3 A 1991 3 3 0 -4 0 1991 10 20 0 -3 A 1999 10 3 0 -4 A 2000 3 3 0 -3 0 2004 6 1 0 -4 0
 2004 6 13 0 -3 A;
America/Argentina/Ushuaia -4:33:12 0 1894 10 31 0 -4:16:48 0 1920 5 1 0 -4 0 1930 12 1 0 -4 A 1969
 10 5 0 -3 A 1999 10 3 0 -4 A 2000 3 3 0 -3 0 2004 5 30 0 -4 0 2004 6 20 0 -3 A 2008 10 18 0 -3 0;
America/Asuncion -3:50:40 0 1890 1 1 0 -3:50:40 0 1931 10 10 0 -4 0 1972 10 1 0 -3 0 1974 4 1 0 -4
 y 2024 10 15 0 -3 0;
America/Bahia -2:34:4 0 1914 1 1 0 -3 B 2003 9 24 0 -3 0 2011 10 16 0 -3 B 2012 10 21 0 -3 0;
America/Bahia_Banderas -7:1 0 1922 1 1 7u -7 0 1927 6 10 0 -6 0 1930 11 15 0 -7 m 1932 4 1 0 -6 0
 1942 4 24 0 -7 0 1970 1 1 0 -7 m 2010 4 4 2 -6 m;
America/Barbados -3:58:29 0 1911 8 28 0 -4 BB 1944 1 1 0 -4 BB 1945 1 1 0 -4 BB;
America/Belem -3:13:56 0 1914 1 1 0 -3 B 1988 9 12 0 -3 0;
America/Belize -5:52:48 0 1912 4 1 0 -6 BZ;
America/Boa_Vista -4:2:40 0 1914 1 1 0 -4 B 1988 9 12 0 -4 0 1999 9 30 0 -4 B 2000 10 15 0 -4 0;
America/Bogota -4:56:16 0 1884 3 13 0 -4:56:16 0 1914 11 23 0 -5 CO;
America/Boise -7:44:49 0 1883 11 18 20u -8 u 1923 5 13 2 -7 u 1974 1 1 0 -7 0 1974 2 3 2 -7 u;
America/Cambridge_Bay 0 0 1920 1 1 0 -7 Y 1999 10 31 2 -6 C 2000 10 29 2 -5 0 2000 11 5 0 -6 0 2001
 4 1 3 -7 C;
America/Campo_Grande -3:38:28 0 1914 1 1 0 -4 B;
America/Cancun -5:47:4 0 1922 1 1 6u -6 0 1981 12 26 2 -5 0 1983 1 4 0 -6 m 1997 10 26 2 -5 m 1998
 8 2 2 -6 m 2015 2 1 2 -5 0;
America/Caracas -4:27:44 0 1890 1 1 0 -4:27:40 0 1912 2 12 0 -4:30 0 1965 1 1 0 -4 0 2007 12 9 3
 -4:30 0 2016 5 1 2:30 -4 0;
America/Cayenne -3:29:20 0 1911 7 1 0 -4 0 1967 10 1 0 -3 0;
America/Chicago -5:50:36 0 1883 11 18 18u -6 u 1920 1 1 0 -6 Ch 1936 3 1 2 -5 0 1936 11 15 2 -6 Ch
 1942 1 1 0 -6 u 1946 1 1 0 -6 Ch 1967 1 1 0 -6 u;
America/Chihuahua -7:4:20 0 1922 1 1 7u -7 0 1927 6 10 0 -6 0 1930 11 15 0 -7 m 1932 4 1 0 -6 0
 1996 1 1 0 -6 m 1998 1 1 0 -6 0 1998 4 0>1 3 -7 m 2022 10 30 2 -6 0;
America/Ciudad_Juarez -7:5:56 0 1922 1 1 7u -7 0 1927 6 10 0 -6 0 1930 11 15 0 -7 m 1932 4 1 0 -6 0
 1996 1 1 0 -6 m 1998 1 1 0 -6 0 1998 4 0>1 3 -7 m 2010 1 1 0 -7 u 2022 10 30 2 -6 0 2022 11 30 0
 -7 u;
America/Costa_Rica -5:36:13 0 1890 1 1 0 -5:36:13 0 1921 1 15 0 -6 CR;
America/Coyhaique -4:48:16 0 1890 1 1 0 -4:42:45 0 1910 1 10 0 -5 0 1916 7 1 0 -4:42:45 0 1918 9 10
 0 -4 0 1919 7 1 0 -4:42:45 0 1927 9 1 0 -5 x 1932 9 1 0 -4 0 1942 6 1 0 -5 0 1942 8 1 0 -4 0 1946
 8 28 24 -5 1 1947 3 31 24 -5 0 1947 5 21 23 -4 x 2025 3 20 0 -3 0;
America/Cuiaba -3:44:20 0 1914 1 1 0 -4 B 2003 9 24 0 -4 0 2004 10 1 0 -4 B;
America/Danmarkshavn -1:14:40 0 1916 7 28 0 -3 0 1980 4 6 2 -3 E 1996 1 1 0 0 0;
America/Dawson -9:17:40 0 1900 8 20 0 -9 Y 1965 1 1 0 -9 Yu 1973 10 28 0 -8 0 1980 1 1 0 -8 C 2020
 11 1 0 -7 0;
America/Dawson_Creek -8:0:56 0 1884 1 1 0 -8 C 1947 1 1 0 -8 Va 1972 8 30 2 -7 0;
America/Denver -6:59:56 0 1883 11 18 19u -7 u 1920 1 1 0 -7 De 1942 1 1 0 -7 u 1946 1 1 0 -7 De
 1967 1 1 0 -7 u;
America/Detroit -5:32:11 0 1905 1 1 0 -6 0 1915 5 15 2 -5 0 1942 1 1 0 -5 u 1946 1 1 0 -5 Dt 1967 6
 14 0:1 -5 u 1969 1 1 0 -5 0 1973 1 1 0 -5 u 1975 1 1 0 -5 0 1975 4 27 2 -5 u;
America/Edmonton -7:33:52 0 1906 9 1 0 -7 Ed 1987 1 1 0 -7 C;
America/Eirunepe -4:39:28 0 1914 1 1 0 -5 B 1988 9 12 0 -5 0 1993 9 28 0 -5 B 1994 9 22 0 -5 0 2008
 6 24 0 -4 0 2013 11 10 0 -5 0;
America/El_Salvador -5:56:48 0 1921 1 1 0 -6 SV;
America/Fort_Nelson -8:10:47 0 1884 1 1 0 -8 Va 1946 1 1 0 -8 0 1947 1 1 0 -8 Va 1987 1 1 0 -8 C
 2015 3 8 2 -7 0;
America/Fortaleza -2:34 0 1914 1 1 0 -3 B 1990 9 17 0 -3 0 1999 9 30 0 -3 B 2000 10 22 0 -3 0 2001
 9 13 0 -3 B 2002 10 1 0 -3 0;
America/Glace_Bay -3:59:48 0 1902 6 15 0 -4 C 1953 1 1 0 -4 H 1954 1 1 0 -4 0 1972 1 1 0 -4 H 1974
 1 1 0 -4 C;
America/Goose_Bay -4:1:40 0 1884 1 1 0 -3:30:52 0 1918 1 1 0 -3:30:52 C 1919 1 1 0 -3:30:52 0 1935
 3 30 0 -3:30 0 1936 1 1 0 -3:30 j 1942 5 11 0 -3:30 C 1946 1 1 0 -3:30 j 1966 3 15 2 -4 j 2011 11
 1 0 -4 C;
America/Grand_Turk -4:44:32 0 1890 1 1 0 -5:7:10 0 1912 2 1 0 -5 0 1979 1 1 0 -5 u 2015 3 8 2 -4 0
 2018 3 11 3 -5 u;
America/Guatemala -6:2:4 0 1918 10 5 0 -6 GT;
America/Guayaquil -5:19:20 0 1890 1 1 0 -5:14 0 1931 1 1 0 -5 EC;
America/Guyana -3:52:39 0 1911 8 1 0 -4 0 1915 3 1 0 -3:45 0 1975 8 1 0 -3 0 1992 3 29 1 -4 0;
America/Halifax -4:14:24 0 1902 6 15 0 -4 H 1918 1 1 0 -4 C 1919 1 1 0 -4 H 1942 2 9 2s -4 C 1946 1
 1 0 -4 H 1974 1 1 0 -4 C;
America/Havana -5:29:28 0 1890 1 1 0 -5:29:36 0 1925 7 19 12 -5 Q;
America/Hermosillo -7:23:52 0 1922 1 1 7u -7 0 1927 6 10 0 -6 0 1930 11 15 0 -7 m 1932 4 1 0 -6 0
 1942 4 24 0 -7 0 1996 1 1 0 -7 m 1999 1 1 0 -7 0;
America/Indiana/Indianapolis -5:44:38 0 1883 11 18 18u -6 u 1920 1 1 0 -6 In 1942 1 1 0 -6 u 1946 1
 1 0 -6 In 1955 4 24 2 -5 0 1957 9 29 2 -6 0 1958 4 27 2 -5 0 1969 1 1 0 -5 u 1971 1 1 0 -5 0 2006
 1 1 0 -5 u;
America/Indiana/Knox -5:46:30 0 1883 11 18 18u -6 u 1947 1 1 0 -6 St 1962 4 29 2 -5 0 1963 10 27 2
 -6 u 1991 10 27 2 -5 0 2006 4 2 2 -6 u;
America/Indiana/Marengo -5:45:23 0 1883 11 18 18u -6 u 1951 1 1 0 -6 Ma 1961 4 30 2 -5 0 1969 1 1 0
 -5 u 1974 1 6 2 -6 1 1974 10 27 2 -5 u 1976 1 1 0 -5 0 2006 1 1 0 -5 u;
America/Indiana/Petersburg -5:49:7 0 1883 11 18 18u -6 u 1955 1 1 0 -6 Pi 1965 4 25 2 -5 0 1966 10
 30 2 -6 u 1977 10 30 2 -5 0 2006 4 2 2 -6 u 2007 11 4 2 -5 u;
America/Indiana/Tell_City -5:47:3 0 1883 11 18 18u -6 u 1946 1 1 0 -6 Pe 1964 4 26 2 -5 0 1967 10
 29 2 -6 u 1969 4 27 2 -5 u 1971 1 1 0 -5 0 2006 4 2 2 -6 u;
America/Indiana/Vevay -5:40:16 0 1883 11 18 18u -6 u 1954 4 25 2 -5 0 1969 1 1 0 -5 u 1973 1 1 0 -5
 0 2006 1 1 0 -5 u;
America/Indiana/Vincennes -5:50:7 0 1883 11 18 18u -6 u 1946 1 1 0 -6 V 1964 4 26 2 -5 0 1969 1 1 0
 -5 u 1971 1 1 0 -5 0 2006 4 2 2 -6 u 2007 11 4 2 -5 u;
America/Indiana/Winamac -5:46:25 0 1883 11 18 18u -6 u 1946 1 1 0 -6 Pu 1961 4 30 2 -5 0 1969 1 1 0
 -5 u 1971 1 1 0 -5 0 2006 4 2 2 -6 u 2007 3 11 2 -5 u;
America/Inuvik 0 0 1953 1 1 0 -8 Y 1979 4 0L 2 -7 Y 1980 1 1 0 -7 C;
America/Iqaluit 0 0 1942 8 1 0 -5 Y 1999 10 31 2 -6 C 2000 10 29 2 -5 C;
America/Jamaica -5:7:10 0 1890 1 1 0 -5:7:10 0 1912 2 1 0 -5 0 1974 1 1 0 -5 u 1984 1 1 0 -5 0;
America/Juneau 15:2:19 0 1867 10 19 15:33:32 -8:57:41 0 1900 8 20 12 -8 0 1942 1 1 0 -8 u 1946 1 1
 0 -8 0 1969 1 1 0 -8 u 1980 4 27 2 -9 u 1980 10 26 2 -8 u 1983 10 30 2 -9 u 1983 11 30 0 -9 u;
America/Kentucky/Louisville -5:43:2 0 1883 11 18 18u -6 u 1921 1 1 0 -6 v 1942 1 1 0 -6 u 1946 1 1
 0 -6 v 1961 7 23 2 -5 0 1968 1 1 0 -5 u 1974 1 6 2 -6 1 1974 10 27 2 -5 u;
America/Kentucky/Monticello -5:39:24 0 1883 11 18 18u -6 u 1946 1 1 0 -6 0 1968 1 1 0 -6 u 2000 10
 29 2 -5 u;
America/La_Paz -4:32:36 0 1890 1 1 0 -4:32:36 0 1931 10 15 0 -4:32:36 1 1932 3 21 0 -4 0;
America/Lima -5:8:12 0 1890 1 1 0 -5:8:36 0 1908 7 28 0 -5 PE;
America/Los_Angeles -7:52:58 0 1883 11 18 20u -8 u 1946 1 1 0 -8 CA 1967 1 1 0 -8 u;
America/Maceio -2:22:52 0 1914 1 1 0 -3 B 1990 9 17 0 -3 0 1995 10 13 0 -3 B 1996 9 4 0 -3 0 1999 9
 30 0 -3 B 2000 10 22 0 -3 0 2001 9 13 0 -3 B 2002 10 1 0 -3 0;
America/Managua -5:45:8 0 1890 1 1 0 -5:45:12 0 1934 6 23 0 -6 0 1973 5 1 0 -5 0 1975 2 16 0 -6 NI
 1992 1 1 4 -5 0 1992 9 24 0 -6 0 1993 1 1 0 -5 0 1997 1 1 0 -6 NI;
America/Manaus -4:0:4 0 1914 1 1 0 -4 B 1988 9 12 0 -4 0 1993 9 28 0 -4 B 1994 9 22 0 -4 0;
America/Martinique -4:4:20 0 1890 1 1 0 -4:4:20 0 1911 5 1 0 -4 0 1980 4 6 0 -4 1 1980 9 28 0 -4 0;
America/Matamoros -6:30 0 1922 1 1 6u -6 0 1988 1 1 0 -6 u 1989 1 1 0 -6 m 2010 1 1 0 -6 u;
America/Mazatlan -7:5:40 0 1922 1 1 7u -7 0 1927 6 10 0 -6 0 1930 11 15 0 -7 m 1932 4 1 0 -6 0 1942
 4 24 0 -7 0 1970 1 1 0 -7 m;
America/Menominee -5:50:27 0 1885 9 18 12 -6 u 1946 1 1 0 -6 Me 1969 4 27 2 -5 0 1973 4 29 2 -6 u;
America/Merida -5:58:28 0 1922 1 1 6u -6 0 1981 12 26 2 -5 0 1982 11 2 2 -6 m;
America/Metlakatla 15:13:42 0 1867 10 19 15:44:55 -8:46:18 0 1900 8 20 12 -8 0 1942 1 1 0 -8 u 1946
 1 1 0 -8 0 1969 1 1 0 -8 u 1983 10 30 2 -8 0 2015 11 1 2 -9 u 2018 11 4 2 -8 0 2019 1 20 2 -9 u;
America/Mexico_City -6:36:36 0 1922 1 1 7u -7 0 1927 6 10 0 -6 0 1930 11 15 0 -7 m 1932 4 1 0 -6 m
 2001 9 30 2 -6 0 2002 2 20 0 -6 m;
America/Miquelon -3:44:40 0 1911 6 15 0 -4 0 1980 5 1 0 -3 0 1987 1 1 0 -3 C;
America/Moncton -4:19:8 0 1883 12 9 0 -5 0 1902 6 15 0 -4 C 1933 1 1 0 -4 o 1942 1 1 0 -4 C 1946 1
 1 0 -4 o 1973 1 1 0 -4 C 1993 1 1 0 -4 o 2007 1 1 0 -4 C;
America/Monterrey -6:41:16 0 1922 1 1 6u -7 0 1927 6 10 0 -6 0 1930 11 15 0 -7 m 1932 4 1 0 -6 0
 1988 1 1 0 -6 u 1989 1 1 0 -6 m;
America/Montevideo -3:44:51 0 1908 6 10 0 -3:44:51 0 1920 5 1 0 -4 0 1923 10 1 0 -3:30 U 1942 12 14
 0 -3 U 1960 1 1 0 -3 U 1968 1 1 0 -3 U 1970 1 1 0 -3 U 1974 1 1 0 -3 U 1974 3 10 0 -3 U 1974 12 22
 0 -3 U;
America/New_York -4:56:2 0 1883 11 18 17u -5 u 1920 1 1 0 -5 NY 1942 1 1 0 -5 u 1946 1 1 0 -5 NY
 1967 1 1 0 -5 u;
America/Nome 12:58:22 0 1867 10 19 13:29:35 -11:1:38 0 1900 8 20 12 -11 0 1942 1 1 0 -11 u 1946 1 1
 0 -11 0 1967 4 1 0 -11 0 1969 1 1 0 -11 u 1983 10 30 2 -9 u 1983 11 30 0 -9 u;
America/Noronha -2:9:40 0 1914 1 1 0 -2 B 1990 9 17 0 -2 0 1999 9 30 0 -2 B 2000 10 15 0 -2 0 2001
 9 13 0 -2 B 2002 10 1 0 -2 0;
America/North_Dakota/Beulah -6:47:7 0 1883 11 18 19u -7 u 2010 11 7 2 -6 u;
America/North_Dakota/Center -6:45:12 0 1883 11 18 19u -7 u 1992 10 25 2 -6 u;
America/North_Dakota/New_Salem -6:45:39 0 1883 11 18 19u -7 u 2003 10 26 2 -6 u;
America/Nuuk -3:26:56 0 1916 7 28 0 -3 0 1980 4 6 2 -3 E 2023 3 26 1u -2 0 2023 10 29 1u -2 E;
America/Ojinaga -6:57:40 0 1922 1 1 7u -7 0 1927 6 10 0 -6 0 1930 11 15 0 -7 m 1932 4 1 0 -6 0 1996
 1 1 0 -6 m 1998 1 1 0 -6 0 1998 4 0>1 3 -7 m 2010 1 1 0 -7 u 2022 10 30 2 -6 0 2022 11 30 0 -6 u;
America/Panama -5:18:8 0 1890 1 1 0 -5:19:36 0 1908 4 22 0 -5 0;
America/Paramaribo -3:40:40 0 1911 1 1 0 -3:40:52 0 1935 1 1 0 -3:40:36 0 1945 10 1 0 -3:30 0 1984
 10 1 0 -3 0;
America/Phoenix -7:28:18 0 1883 11 18 19u -7 u 1944 1 1 0:1 -7 0 1944 4 1 0:1 -7 u 1944 10 1 0:1 -7
 0 1967 1 1 0 -7 u 1968 3 21 0 -7 0;
America/\x50ort-au-Prince -4:49:20 0 1890 1 1 0 -4:49 0 1917 1 24 12 -5 HT;
America/Porto_Velho -4:15:36 0 1914 1 1 0 -4 B 1988 9 12 0 -4 0;
America/Puerto_Rico -4:24:25 0 1899 3 28 12 -4 0 1942 5 3 0 -4 u 1946 1 1 0 -4 0;
America/Punta_Arenas -4:43:40 0 1890 1 1 0 -4:42:45 0 1910 1 10 0 -5 0 1916 7 1 0 -4:42:45 0 1918 9
 10 0 -4 0 1919 7 1 0 -4:42:45 0 1927 9 1 0 -5 x 1932 9 1 0 -4 0 1942 6 1 0 -5 0 1942 8 1 0 -4 0
 1946 8 28 24 -5 1 1947 3 31 24 -5 0 1947 5 21 23 -4 x 2016 12 4 0 -3 0;
America/Rankin_Inlet 0 0 1957 1 1 0 -6 Y 2000 10 29 2 -5 0 2001 4 1 3 -6 C;
America/Recife -2:19:36 0 1914 1 1 0 -3 B 1990 9 17 0 -3 0 1999 9 30 0 -3 B 2000 10 15 0 -3 0 2001
 9 13 0 -3 B 2002 10 1 0 -3 0;
America/Regina -6:58:36 0 1905 9 1 0 -7 r 1960 4 0L 2 -6 0;
America/Resolute 0 0 1947 8 31 0 -6 Y 2000 10 29 2 -5 0 2001 4 1 3 -6 C 2006 10 29 2 -5 0 2007 3 11
 3 -6 C;
America/Rio_Branco -4:31:12 0 1914 1 1 0 -5 B 1988 9 12 0 -5 0 2008 6 24 0 -4 0 2013 11 10 0 -5 0;
America/Santarem -3:38:48 0 1914 1 1 0 -4 B 1988 9 12 0 -4 0 2008 6 24 0 -3 0;
America/Santiago -4:42:45 0 1890 1 1 0 -4:42:45 0 1910 1 10 0 -5 0 1916 7 1 0 -4:42:45 0 1918 9 10
 0 -4 0 1919 7 1 0 -4:42:45 0 1927 9 1 0 -5 x 1932 9 1 0 -4 0 1942 6 1 0 -5 0 1942 8 1 0 -4 0 1946
 7 14 24 -4 1 1946 8 28 24 -5 1 1947 3 31 24 -5 0 1947 5 21 23 -4 x;
America/Santo_Domingo -4:39:36 0 1890 1 1 0 -4:40 0 1933 4 1 12 -5 DO 1974 10 27 0 -4 0 2000 10 29
 2 -5 u 2000 12 3 1 -4 0;
America/Sao_Paulo -3:6:28 0 1914 1 1 0 -3 B 1963 10 23 0 -3 1 1964 1 1 0 -3 B;
America/Scoresbysund -1:27:52 0 1916 7 28 0 -2 0 1980 4 6 2 -2 c 1981 3 29 0 -1 E 2024 3 31 0 -2 E;
America/Sitka 14:58:47 0 1867 10 19 15:30 -9:1:13 0 1900 8 20 12 -8 0 1942 1 1 0 -8 u 1946 1 1 0 -8
 0 1969 1 1 0 -8 u 1983 10 30 2 -9 u 1983 11 30 0 -9 u;
America/St_Johns -3:30:52 0 1884 1 1 0 -3:30:52 j 1918 1 1 0 -3:30:52 C 1919 1 1 0 -3:30:52 j 1935
 3 30 0 -3:30 j 1942 5 11 0 -3:30 C 1946 1 1 0 -3:30 j 2011 11 1 0 -3:30 C;
America/Swift_Current -7:11:20 0 1905 9 1 0 -7 C 1946 4 0L 2 -7 r 1950 1 1 0 -7 Sw 1972 4 0L 2 -6
 0;
America/Tegucigalpa -5:48:52 0 1921 4 1 0 -6 HN;
America/Thule -4:35:8 0 1916 7 28 0 -4 Th;
America/Tijuana -7:48:4 0 1922 1 1 7u -7 0 1924 1 1 0 -8 0 1927 6 10 0 -7 0 1930 11 15 0 -8 0 1931
 4 1 0 -8 1 1931 9 30 0 -8 0 1942 4 24 0 -8 1 1945 8 14 23u -8 1 1945 11 15 0 -8 0 1948 4 5 0 -8 1
 1949 1 14 0 -8 0 1950 5 1 0 -8 1 1950 9 24 0 -8 0 1951 4 29 2 -8 1 1951 9 30 2 -8 0 1952 4 27 2 -8
 1 1952 9 28 2 -8 0 1954 1 1 0 -8 CA 1961 1 1 0 -8 0 1976 1 1 0 -8 u 1996 1 1 0 -8 m 2001 1 1 0 -8
 u 2002 2 20 0 -8 m 2010 1 1 0 -8 u;
America/Toronto -5:17:32 0 1895 1 1 0 -5 C 1919 1 1 0 -5 t 1942 2 9 2s -5 C 1946 1 1 0 -5 t 1974 1
 1 0 -5 C;
America/Vancouver -8:12:28 0 1884 1 1 0 -8 Va 1987 1 1 0 -8 C;
America/Whitehorse -9:0:12 0 1900 8 20 0 -9 Y 1965 1 1 0 -9 Yu 1966 2 27 0 -8 0 1980 1 1 0 -8 C
 2020 11 1 0 -7 0;
America/Winnipeg -6:28:36 0 1887 7 16 0 -6 W 2006 1 1 0 -6 C;
America/Yakutat 14:41:5 0 1867 10 19 15:12:18 -9:18:55 0 1900 8 20 12 -9 0 1942 1 1 0 -9 u 1946 1 1
 0 -9 0 1969 1 1 0 -9 u 1983 11 30 0 -9 u;
Antarctica/Casey 0 0 1969 1 1 0 8 0 2009 10 18 2 11 0 2010 3 5 2 8 0 2011 10 28 2 11 0 2012 2 21
 17u 8 0 2016 10 22 0 11 0 2018 3 11 4 8 0 2018 10 7 4 11 0 2019 3 17 3 8 0 2019 10 4 3 11 0 2020 3
 8 3 8 0 2020 10 4 0:1 11 0 2021 3 14 0 8 0 2021 10 3 0:1 11 0 2022 3 13 0 8 0 2022 10 2 0:1 11 0
 2023 3 9 3 8 0;
Antarctica/Davis 0 0 1957 1 13 0 7 0 1964 11 1 0 0 0 1969 2 1 0 7 0 2009 10 18 2 5 0 2010 3 10 20u
 7 0 2011 10 28 2 5 0 2012 2 21 20u 7 0;
Antarctica/Macquarie 0 0 1899 11 1 0 10 0 1916 10 1 2 10 1 1917 2 1 0 10 AU 1919 4 1 0s 0 0 1948 3
 25 0 10 AU 1967 1 1 0 10 AT 2010 1 1 0 10 1 2011 1 1 0 10 AT;
Antarctica/Mawson 0 0 1954 2 13 0 6 0 2009 10 18 2 5 0;
Antarctica/Palmer 0 0 1965 1 1 0 -4 A 1969 10 5 0 -3 A 1982 5 1 0 -4 x 2016 12 4 0 -3 0;
Antarctica/Rothera 0 0 1976 12 1 0 -3 0;
Antarctica/Troll 0 0 2005 2 12 0 0 Tr;
Antarctica/Vostok 0 0 1957 12 16 0 7 0 1994 2 1 0 0 0 1994 11 1 0 7 0 2023 12 18 2 5 0;
Asia/Almaty 5:7:48 0 1924 5 2 0 5 0 1930 6 21 0 6 R 1991 3 31 2s 5 R 1992 1 19 2s 6 R 2004 10 31 2s
 6 0 2024 3 1 0 5 0;
Asia/Amman 2:23:44 0 1931 1 1 0 2 J 2022 10 28 0s 3 0;
Asia/Anadyr 11:49:56 0 1924 5 2 0 12 0 1930 6 21 0 13 R 1982 4 1 0s 12 R 1991 3 31 2s 11 R 1992 1
 19 2s 12 R 2010 3 28 2s 11 R 2011 3 27 2s 12 0;
Asia/Aqtau 3:21:4 0 1924 5 2 0 4 0 1930 6 21 0 5 0 1981 10 1 0 6 0 1982 4 1 0 5 R 1991 3 31 2s 4 R
 1992 1 19 2s 5 R 1994 9 25 2s 4 R 2004 10 31 2s 5 0;
Asia/Aqtobe 3:48:40 0 1924 5 2 0 4 0 1930 6 21 0 5 0 1981 4 1 0 5 1 1981 10 1 0 6 0 1982 4 1 0 5 R
 1991 3 31 2s 4 R 1992 1 19 2s 5 R 2004 10 31 2s 5 0;
Asia/Ashgabat 3:53:32 0 1924 5 2 0 4 0 1930 6 21 0 5 R 1991 3 31 2 4 R 1992 1 19 2 5 0;
Asia/Atyrau 3:27:44 0 1924 5 2 0 3 0 1930 6 21 0 5 0 1981 10 1 0 6 0 1982 4 1 0 5 R 1991 3 31 2s 4
 R 1992 1 19 2s 5 R 1999 3 28 2s 4 R 2004 10 31 2s 5 0;
Asia/Baghdad 2:57:40 0 1890 1 1 0 2:57:36 0 1918 1 1 0 3 0 1982 5 1 0 3 IQ;
Asia/Baku 3:19:24 0 1924 5 2 0 3 0 1957 3 1 0 4 R 1991 3 31 2s 3 R 1992 9 0L 2s 4 0 1996 1 1 0 4 E
 1997 1 1 0 4 AZ;
Asia/Bangkok 6:42:4 0 1880 1 1 0 6:42:4 0 1920 4 1 0 7 0;
Asia/Barnaul 5:35 0 1919 12 10 0 6 0 1930 6 21 0 7 R 1991 3 31 2s 6 R 1992 1 19 2s 7 R 1995 5 28 0
 6 R 2011 3 27 2s 7 0 2014 10 26 2s 6 0 2016 3 27 2s 7 0;
Asia/Beirut 2:22 0 1880 1 1 0 2 l;
Asia/Bishkek 4:58:24 0 1924 5 2 0 5 0 1930 6 21 0 6 R 1991 3 31 2s 5 R 1991 8 31 2 5 KG 2005 8 12 0
 6 0;
Asia/Chita 7:33:52 0 1919 12 15 0 8 0 1930 6 21 0 9 R 1991 3 31 2s 8 R 1992 1 19 2s 9 R 2011 3 27
 2s 10 0 2014 10 26 2s 8 0 2016 3 27 2 9 0;
Asia/Colombo 5:19:24 0 1880 1 1 0 5:19:32 0 1906 1 1 0 5:30 0 1942 1 5 0 5:30 0:30 1942 9 1 0 5:30
 1 1945 10 16 2 5:30 0 1996 5 25 0 6:30 0 1996 10 26 0:30 6 0 2006 4 15 0:30 5:30 0;
Asia/Damascus 2:25:12 0 1920 1 1 0 2 S 2022 10 28 0 3 0;
Asia/Dhaka 6:1:40 0 1890 1 1 0 5:53:20 0 1941 10 1 0 6:30 0 1942 5 15 0 5:30 0 1942 9 1 0 6:30 0
 1951 9 30 0 6 0 2009 1 1 0 6 BD;
Asia/Dili 8:22:20 0 1911 12 31 16u 8 0 1942 2 21 23 9 0 1976 5 3 0 8 0 2000 9 17 0 9 0;
Asia/Dubai 3:41:12 0 1920 1 1 0 4 0;
Asia/Dushanbe 4:35:12 0 1924 5 2 0 5 0 1930 6 21 0 6 R 1991 3 31 2s 5 1 1991 9 9 2s 5 0;
Asia/Famagusta 2:15:48 0 1921 11 14 0 2 CY 1998 9 1 0 2 E 2016 9 8 0 3 0 2017 10 29 1u 2 E;
Asia/Gaza 2:17:52 0 1900 10 1 0 2 Z 1948 5 15 0 2 K 1967 6 5 0 2 Z 1996 1 1 0 2 J 1999 1 1 0 2 P
 2008 8 29 0 2 0 2008 9 1 0 2 P 2010 1 1 0 2 0 2010 3 27 0:1 2 P 2011 8 1 0 2 0 2012 1 1 0 2 P;
Asia/Hebron 2:20:23 0 1900 10 1 0 2 Z 1948 5 15 0 2 K 1967 6 5 0 2 Z 1996 1 1 0 2 J 1999 1 1 0 2 P;
Asia/Ho_Chi_Minh 7:6:30 0 1906 7 1 0 7:6:30 0 1911 5 1 0 7 0 1942 12 31 23 8 0 1945 3 14 23 9 0
 1945 9 1 24 7 0 1947 4 1 0 8 0 1955 7 1 1 7 0 1959 12 31 23 8 0 1975 6 13 0 7 0;
Asia/Hong_Kong 7:36:42 0 1904 10 29 17u 8 0 1941 6 15 3 8 1 1941 10 1 4 8 0:30 1941 12 25 0 9 0
 1945 11 18 2 8 HK;
Asia/Hovd 6:6:36 0 1905 8 1 0 6 0 1978 1 1 0 7 X;
Asia/Irkutsk 6:57:5 0 1880 1 1 0 6:57:5 0 1920 1 25 0 7 0 1930 6 21 0 8 R 1991 3 31 2s 7 R 1992 1
 19 2s 8 R 2011 3 27 2s 9 0 2014 10 26 2s 8 0;
Asia/Jakarta 7:7:12 0 1867 8 10 0 7:7:12 0 1923 12 31 16:40u 7:20 0 1932 11 1 0 7:30 0 1942 3 23 0
 9 0 1945 9 23 0 7:30 0 1948 5 1 0 8 0 1950 5 1 0 7:30 0 1964 1 1 0 7 0;
Asia/Jayapura 9:22:48 0 1932 11 1 0 9 0 1944 9 1 0 9:30 0 1964 1 1 0 9 0;
Asia/Jerusalem 2:20:54 0 1880 1 1 0 2:20:40 0 1918 1 1 0 2 Z;
Asia/Kabul 4:36:48 0 1890 1 1 0 4 0 1945 1 1 0 4:30 0;
Asia/Kamchatka 10:34:36 0 1922 11 10 0 11 0 1930 6 21 0 12 R 1991 3 31 2s 11 R 1992 1 19 2s 12 R
 2010 3 28 2s 11 R 2011 3 27 2s 12 0;
Asia/Karachi 4:28:12 0 1907 1 1 0 5:30 0 1942 9 1 0 5:30 1 1945 10 15 0 5:30 0 1951 9 30 0 5 0 1971
 3 26 0 5 PK;
Asia/Kathmandu 5:41:16 0 1920 1 1 0 5:30 0 1986 1 1 0 5:45 0;
Asia/Khandyga 9:2:13 0 1919 12 15 0 8 0 1930 6 21 0 9 R 1991 3 31 2s 8 R 1992 1 19 2s 9 R 2004 1 1
 0 10 R 2011 3 27 2s 11 0 2011 9 13 0s 10 0 2014 10 26 2s 9 0;
Asia/Kolkata 5:53:28 0 1854 6 28 0 5:53:20 0 1870 1 1 0 5:21:10 0 1906 1 1 0 5:30 0 1941 10 1 0
 5:30 1 1942 5 15 0 5:30 0 1942 9 1 0 5:30 1 1945 10 15 0 5:30 0;
Asia/Krasnoyarsk 6:11:26 0 1920 1 6 0 6 0 1930 6 21 0 7 R 1991 3 31 2s 6 R 1992 1 19 2s 7 R 2011 3
 27 2s 8 0 2014 10 26 2s 7 0;
Asia/Kuching 7:21:20 0 1926 3 1 0 7:30 0 1933 1 1 0 8 NB 1942 2 16 0 9 0 1945 9 12 0 8 0;
Asia/Macau 7:34:10 0 1904 10 30 0 8 0 1941 12 21 23 9 _ 1945 9 30 24 8 _;
Asia/Magadan 10:3:12 0 1924 5 2 0 10 0 1930 6 21 0 11 R 1991 3 31 2s 10 R 1992 1 19 2s 11 R 2011 3
 27 2s 12 0 2014 10 26 2s 10 0 2016 4 24 2s 11 0;
Asia/Makassar 7:57:36 0 1920 1 1 0 7:57:36 0 1932 11 1 0 8 0 1942 2 9 0 9 0 1945 9 23 0 8 0;
Asia/Manila -15:56:8 0 1844 12 31 0 8:3:52 0 1899 9 6 4u 8 PH 1942 2 11 24 9 0 1945 3 4 0 8 PH;
Asia/Nicosia 2:13:28 0 1921 11 14 0 2 CY 1998 9 1 0 2 E;
Asia/Novokuznetsk 5:48:48 0 1924 5 1 0 6 0 1930 6 21 0 7 R 1991 3 31 2s 6 R 1992 1 19 2s 7 R 2010 3
 28 2s 6 R 2011 3 27 2s 7 0;
Asia/Novosibirsk 5:31:40 0 1919 12 14 6 6 0 1930 6 21 0 7 R 1991 3 31 2s 6 R 1992 1 19 2s 7 R 1993
 5 23 0 6 R 2011 3 27 2s 7 0 2014 10 26 2s 6 0 2016 7 24 2s 7 0;
Asia/Omsk 4:53:30 0 1919 11 14 0 5 0 1930 6 21 0 6 R 1991 3 31 2s 5 R 1992 1 19 2s 6 R 2011 3 27 2s
 7 0 2014 10 26 2s 6 0;
Asia/Oral 3:25:24 0 1924 5 2 0 3 0 1930 6 21 0 5 0 1981 4 1 0 5 1 1981 10 1 0 6 0 1982 4 1 0 5 R
 1989 3 26 2s 4 R 1992 1 19 2s 5 R 1992 3 29 2s 4 R 2004 10 31 2s 5 0;
Asia/Pontianak 7:17:20 0 1908 5 1 0 7:17:20 0 1932 11 1 0 7:30 0 1942 1 29 0 9 0 1945 9 23 0 7:30 0
 1948 5 1 0 8 0 1950 5 1 0 7:30 0 1964 1 1 0 8 0 1988 1 1 0 7 0;
Asia/Pyongyang 8:23 0 1908 4 1 0 8:30 0 1912 1 1 0 9 0 1945 8 24 0 9 0 2015 8 15 0 8:30 0 2018 5 4
 23:30 9 0;
Asia/Qatar 3:26:8 0 1920 1 1 0 4 0 1972 6 1 0 3 0;
Asia/Qostanay 4:14:28 0 1924 5 2 0 4 0 1930 6 21 0 5 0 1981 4 1 0 5 1 1981 10 1 0 6 0 1982 4 1 0 5
 R 1991 3 31 2s 4 R 1992 1 19 2s 5 R 2004 10 31 2s 6 0 2024 3 1 0 5 0;
Asia/Qyzylorda 4:21:52 0 1924 5 2 0 4 0 1930 6 21 0 5 0 1981 4 1 0 5 1 1981 10 1 0 6 0 1982 4 1 0 5
 R 1991 3 31 2s 4 R 1991 9 29 2s 5 R 1992 1 19 2s 6 R 1992 3 29 2s 5 R 2004 10 31 2s 6 0 2018 12 21
 0 5 0;
Asia/Riyadh 3:6:52 0 1947 3 14 0 3 0;
Asia/Sakhalin 9:30:48 0 1905 8 23 0 9 0 1945 8 25 0 11 R 1991 3 31 2s 10 R 1992 1 19 2s 11 R 1997 3
 0L 2s 10 R 2011 3 27 2s 11 0 2014 10 26 2s 10 0 2016 3 27 2s 11 0;
Asia/Samarkand 4:27:53 0 1924 5 2 0 4 0 1930 6 21 0 5 0 1981 4 1 0 5 1 1981 10 1 0 6 0 1982 4 1 0 5
 R 1992 1 1 0 5 0;
Asia/Seoul 8:27:52 0 1908 4 1 0 8:30 0 1912 1 1 0 9 0 1945 9 8 0 9 KR 1954 3 21 0 8:30 KR 1961 8 10
 0 9 KR;
Asia/Shanghai 8:5:43 0 1901 1 1 0 8 Sh 1949 5 28 0 8 CN;
Asia/Singapore 6:55:25 0 1901 1 1 0 6:55:25 0 1905 6 1 0 7 0 1933 1 1 0 7 0:20 1936 1 1 0 7:20 0
 1941 9 1 0 7:30 0 1942 2 16 0 9 0 1945 9 12 0 7:30 0 1981 12 31 16u 8 0;
Asia/Srednekolymsk 10:14:52 0 1924 5 2 0 10 0 1930 6 21 0 11 R 1991 3 31 2s 10 R 1992 1 19 2s 11 R
 2011 3 27 2s 12 0 2014 10 26 2s 11 0;
Asia/Taipei 8:6 0 1896 1 1 0 8 0 1937 10 1 0 9 0 1945 9 21 1 8 f;
Asia/Tashkent 4:37:11 0 1924 5 2 0 5 0 1930 6 21 0 6 R 1991 3 31 2 5 R 1992 1 1 0 5 0;
Asia/Tbilisi 2:59:11 0 1880 1 1 0 2:59:11 0 1924 5 2 0 3 0 1957 3 1 0 4 R 1991 3 31 2s 3 R 1992 1 1
 0 3 e 1994 9 0L 0 4 e 1996 10 0L 0 4 1 1997 3 0L 0 4 e 2004 6 27 0 3 R 2005 3 0L 2 4 0;
Asia/Tehran 3:25:44 0 1916 1 1 0 3:25:44 0 1935 6 13 0 3:30 i 1977 10 20 24 4 i 1978 11 10 24 3:30
 i;
Asia/Thimphu 5:58:36 0 1947 8 15 0 5:30 0 1987 10 1 0 6 0;
Asia/Tokyo 9:18:59 0 1887 12 31 15u 9 JP;
Asia/Tomsk 5:39:51 0 1919 12 22 0 6 0 1930 6 21 0 7 R 1991 3 31 2s 6 R 1992 1 19 2s 7 R 2002 5 1 3
 6 R 2011 3 27 2s 7 0 2014 10 26 2s 6 0 2016 5 29 2s 7 0;
Asia/Ulaanbaatar 7:7:32 0 1905 8 1 0 7 0 1978 1 1 0 8 X;
Asia/Urumqi 5:50:20 0 1928 1 1 0 6 0;
Asia/Ust-Nera 9:32:54 0 1919 12 15 0 8 0 1930 6 21 0 9 R 1981 4 1 0 11 R 1991 3 31 2s 10 R 1992 1
 19 2s 11 R 2011 3 27 2s 12 0 2011 9 13 0s 11 0 2014 10 26 2s 10 0;
Asia/Vladivostok 8:47:31 0 1922 11 15 0 9 0 1930 6 21 0 10 R 1991 3 31 2s 9 R 1992 1 19 2s 10 R
 2011 3 27 2s 11 0 2014 10 26 2s 10 0;
Asia/Yakutsk 8:38:58 0 1919 12 15 0 8 0 1930 6 21 0 9 R 1991 3 31 2s 8 R 1992 1 19 2s 9 R 2011 3 27
 2s 10 0 2014 10 26 2s 9 0;
Asia/Yangon 6:24:47 0 1880 1 1 0 6:24:47 0 1920 1 1 0 6:30 0 1942 5 1 0 9 0 1945 5 3 0 6:30 0;
Asia/Yekaterinburg 4:2:33 0 1916 7 3 0 3:45:5 0 1919 7 15 4 4 0 1930 6 21 0 5 R 1991 3 31 2s 4 R
 1992 1 19 2s 5 R 2011 3 27 2s 6 0 2014 10 26 2s 5 0;
Asia/Yerevan 2:58 0 1924 5 2 0 3 0 1957 3 1 0 4 R 1991 3 31 2s 3 R 1995 9 24 2s 4 0 1997 1 1 0 4 R
 2011 1 1 0 4 AM;
Atlantic/Azores -1:42:40 0 1884 1 1 0 -1:54:32 0 1912 1 1 2u -2 p 1942 4 25 22s -2 p 1942 8 15 22s
 -2 p 1943 4 17 22s -2 p 1943 8 28 22s -2 p 1944 4 22 22s -2 p 1944 8 26 22s -2 p 1945 4 21 22s -2
 p 1945 8 25 22s -2 p 1966 10 2 2s -1 0 1982 3 28 0s -1 p 1986 1 1 0 -1 E 1992 12 27 1s 0 E 1993 6
 17 1u -1 E;
Atlantic/Bermuda -4:19:18 0 1890 1 1 0 -4:19:18 Be 1930 1 1 2 -4 Be 1974 4 28 2 -4 C 1976 1 1 0 -4
 u;
Atlantic/Canary -1:1:36 0 1922 3 1 0 -1 0 1946 9 30 1 0 0 1980 4 6 0s 0 1 1980 9 28 1u 0 E;
Atlantic/Cape_Verde -1:34:4 0 1912 1 1 2u -2 0 1942 9 1 0 -2 1 1945 10 15 0 -2 0 1975 11 25 2 -1 0;
Atlantic/Faroe -0:27:4 0 1908 1 11 0 0 0 1981 1 1 0 0 E;
Atlantic/Madeira -1:7:36 0 1884 1 1 0 -1:7:36 0 1912 1 1 1u -1 p 1942 4 25 22s -1 p 1942 8 15 22s
 -1 p 1943 4 17 22s -1 p 1943 8 28 22s -1 p 1944 4 22 22s -1 p 1944 8 26 22s -1 p 1945 4 21 22s -1
 p 1945 8 25 22s -1 p 1966 10 2 2s 0 0 1982 4 4 0 0 p 1986 7 31 0 0 E;
Atlantic/South_Georgia -2:26:8 0 1890 1 1 0 -2 0;
Atlantic/Stanley -3:51:24 0 1890 1 1 0 -3:51:24 0 1912 3 12 0 -4 FK 1983 5 1 0 -3 FK 1985 9 15 0 -4
 FK 2010 9 5 2 -3 0;
Australia/Adelaide 9:14:20 0 1895 2 1 0 9 0 1899 5 1 0 9:30 AU 1971 1 1 0 9:30 AS;
Australia/Brisbane 10:12:8 0 1895 1 1 0 10 AU 1971 1 1 0 10 AQ;
Australia/Broken_Hill 9:25:48 0 1895 2 1 0 10 0 1896 8 23 0 9 0 1899 5 1 0 9:30 AU 1971 1 1 0 9:30
 AN 2000 1 1 0 9:30 AS;
Australia/Darwin 8:43:20 0 1895 2 1 0 9 0 1899 5 1 0 9:30 AU;
Australia/Eucla 8:35:28 0 1895 12 1 0 8:45 AU 1943 7 1 0 8:45 AW;
Australia/Hobart 9:49:16 0 1895 9 1 0 10 AT 1919 10 24 0 10 AU 1967 1 1 0 10 AT;
Australia/Lindeman 9:55:56 0 1895 1 1 0 10 AU 1971 1 1 0 10 AQ 1992 7 1 0 10 Ho;
Australia/Lord_Howe 10:36:20 0 1895 2 1 0 10 0 1981 3 1 0 10:30 LH 1985 7 1 0 10:30 LH;
Australia/Melbourne 9:39:52 0 1895 2 1 0 10 AU 1971 1 1 0 10 AV;
Australia/Perth 7:43:24 0 1895 12 1 0 8 AU 1943 7 1 0 8 AW;
Australia/Sydney 10:4:52 0 1895 2 1 0 10 AU 1971 1 1 0 10 AN;
Etc/GMT 0 0;
Etc/GMT+1 -1 0;
Etc/GMT+10 -10 0;
Etc/GMT+11 -11 0;
Etc/GMT+12 -12 0;
Etc/GMT+2 -2 0;
Etc/GMT+3 -3 0;
Etc/GMT+4 -4 0;
Etc/GMT+5 -5 0;
Etc/GMT+6 -6 0;
Etc/GMT+7 -7 0;
Etc/GMT+8 -8 0;
Etc/GMT+9 -9 0;
Etc/GMT-1 1 0;
Etc/GMT-10 10 0;
Etc/GMT-11 11 0;
Etc/GMT-12 12 0;
Etc/GMT-13 13 0;
Etc/GMT-14 14 0;
Etc/GMT-2 2 0;
Etc/GMT-3 3 0;
Etc/GMT-4 4 0;
Etc/GMT-5 5 0;
Etc/GMT-6 6 0;
Etc/GMT-7 7 0;
Etc/GMT-8 8 0;
Etc/GMT-9 9 0;
Etc/UTC 0 0;
Europe/Andorra 0:6:4 0 1901 1 1 0 0 0 1946 9 30 0 1 0 1985 3 31 2 1 E;
Europe/Astrakhan 3:12:12 0 1924 5 1 0 3 0 1930 6 21 0 4 R 1989 3 26 2s 3 R 1991 3 31 2s 4 0 1992 3
 29 2s 3 R 2011 3 27 2s 4 0 2014 10 26 2s 3 0 2016 3 27 2s 4 0;
Europe/Athens 1:34:52 0 1895 9 14 0 1:34:52 0 1916 7 28 0:1 2 g 1941 4 30 0 1 g 1944 4 4 0 2 g 1981
 1 1 0 2 E;
Europe/Belgrade 1:22 0 1884 1 1 0 1 0 1941 4 18 23 1 c 1945 1 1 0 1 0 1945 5 8 2s 1 1 1945 9 16 2s
 1 0 1982 11 27 0 1 E;
Europe/Berlin 0:53:28 0 1893 4 1 0 1 c 1945 5 24 2 1 So 1946 1 1 0 1 DE 1980 1 1 0 1 E;
Europe/Brussels 0:17:30 0 1880 1 1 0 0:17:30 0 1892 5 1 0:17:30 0 0 1914 11 8 0 1 0 1916 5 1 0 1 c
 1918 11 11 11u 0 b 1940 5 20 2s 1 c 1944 9 3 0 1 b 1977 1 1 0 1 E;
Europe/Bucharest 1:44:24 0 1891 10 1 0 1:44:24 0 1931 7 24 0 2 z 1981 3 29 2s 2 c 1991 1 1 0 2 z
 1994 1 1 0 2 e 1997 1 1 0 2 E;
Europe/Budapest 1:16:20 0 1890 11 1 0 1 c 1918 1 1 0 1 h 1941 4 7 23 1 c 1945 1 1 0 1 h 1984 1 1 0
 1 E;
Europe/Chisinau 1:55:20 0 1880 1 1 0 1:55 0 1918 2 15 0 1:44:24 0 1931 7 24 0 2 z 1940 8 15 0 2 1
 1941 7 17 0 1 c 1944 8 24 0 3 R 1990 5 6 2 2 R 1992 1 1 0 2 e 1997 1 1 0 2 MD;
Europe/Dublin -0:25:21 0 1880 8 2 0 -0:25:21 0 1916 5 21 2s -0:25:21 1 1916 10 1 2s 0 G 1921 12 6 0
 0 G 1940 2 25 2s 0 1 1946 10 6 2s 0 0 1947 3 16 2s 0 1 1947 11 2 2s 0 0 1948 4 18 2s 0 G 1968 10
 27 0 1 0 1971 10 31 2u 0 G 1996 1 1 0 0 E;
Europe/Gibraltar -0:21:24 0 1880 8 2 0 0 G 1957 4 14 2 1 0 1982 1 1 0 1 E;
Europe/Helsinki 1:39:49 0 1878 5 31 0 1:39:49 0 1921 5 1 0 2 FI 1983 1 1 0 2 E;
Europe/Istanbul 1:55:52 0 1880 1 1 0 1:56:56 0 1910 10 1 0 2 T 1978 6 29 0 3 T 1984 11 1 2 2 T 2007
 1 1 0 2 E 2011 3 27 1u 2 0 2011 3 28 1u 2 E 2014 3 30 1u 2 0 2014 3 31 1u 2 E 2015 10 25 1u 2 1
 2015 11 8 1u 2 E 2016 9 7 0 3 0;
Europe/Kaliningrad 1:22 0 1893 4 1 0 1 c 1945 4 10 0 2 O 1946 4 7 0 3 R 1989 3 26 2s 2 R 2011 3 27
 2s 3 0 2014 10 26 2s 2 0;
Europe/Kirov 3:18:48 0 1919 7 1 0u 3 0 1930 6 21 0 4 R 1989 3 26 2s 3 R 1991 3 31 2s 4 0 1992 3 29
 2s 3 R 2011 3 27 2s 4 0 2014 10 26 2s 3 0;
Europe/Kyiv 2:2:4 0 1880 1 1 0 2:2:4 0 1924 5 2 0 2 0 1930 6 21 0 3 0 1941 9 20 0 1 c 1943 11 6 0 3
 R 1990 7 1 2 2 1 1991 9 29 3 2 c 1996 5 13 0 2 E;
Europe/Lisbon -0:36:45 0 1884 1 1 0 -0:36:45 0 1912 1 1 0u 0 p 1966 10 2 2s 1 0 1976 9 26 1 0 p
 1986 1 1 0 0 E 1992 9 27 1u 1 E 1996 3 31 1u 0 E;
Europe/London -0:1:15 0 1847 12 1 0 0 G 1968 10 27 0 1 0 1971 10 31 2u 0 G 1996 1 1 0 0 E;
Europe/Madrid -0:14:44 0 1901 1 1 0u 0 s 1940 3 16 23 1 s 1979 1 1 0 1 E;
Europe/Malta 0:58:4 0 1893 11 2 0 1 I 1973 3 31 0 1 MT 1981 1 1 0 1 E;
Europe/Minsk 1:50:16 0 1880 1 1 0 1:50 0 1924 5 2 0 2 0 1930 6 21 0 3 0 1941 6 28 0 1 c 1944 7 3 0
 3 R 1990 1 1 0 3 0 1991 3 31 2s 2 R 2011 3 27 2s 3 0;
Europe/Moscow 2:30:17 0 1880 1 1 0 2:30:17 0 1916 7 3 0 2:31:19 R 1919 7 1 0u 3 R 1921 10 1 0 3 R
 1922 10 1 0 2 0 1930 6 21 0 3 R 1991 3 31 2s 2 R 1992 1 19 2s 3 R 2011 3 27 2s 4 0 2014 10 26 2s 3
 0;
Europe/Paris 0:9:21 0 1891 3 16 0 0:9:21 0 1911 3 11 0 0 F 1940 6 14 23 1 c 1944 8 25 0 0 F 1945 9
 16 3 1 F 1977 1 1 0 1 E;
Europe/Prague 0:57:44 0 1850 1 1 0 0:57:44 0 1891 10 1 0 1 c 1945 5 9 0 1 CZ 1946 12 1 3 0 0 1947 2
 23 2 1 CZ 1979 1 1 0 1 E;
Europe/Riga 1:36:34 0 1880 1 1 0 1:36:34 0 1918 4 15 2 1:36:34 1 1918 9 16 3 1:36:34 0 1919 4 1 2
 1:36:34 1 1919 5 22 3 1:36:34 0 1926 5 11 0 2 0 1940 8 5 0 3 0 1941 7 1 0 1 c 1944 10 13 0 3 R
 1989 3 0L 2s 2 1 1989 9 0L 2s 2 LV 1997 1 21 0 2 E 2000 2 29 0 2 0 2001 1 2 0 2 E;
Europe/Rome 0:49:56 0 1866 12 12 0 0:49:56 0 1893 10 31 23u 1 I 1943 9 10 0 1 c 1944 6 4 0 1 I 1980
 1 1 0 1 E;
Europe/Samara 3:20:20 0 1919 7 1 0u 3 0 1930 6 21 0 4 0 1935 1 27 0 4 R 1989 3 26 2s 3 R 1991 3 31
 2s 2 R 1991 9 29 2s 3 0 1991 10 20 3 4 R 2010 3 28 2s 3 R 2011 3 27 2s 4 0;
Europe/Saratov 3:4:18 0 1919 7 1 0u 3 0 1930 6 21 0 4 R 1988 3 27 2s 3 R 1991 3 31 2s 4 0 1992 3 29
 2s 3 R 2011 3 27 2s 4 0 2014 10 26 2s 3 0 2016 12 4 2s 4 0;
Europe/Simferopol 2:16:24 0 1880 1 1 0 2:16 0 1924 5 2 0 2 0 1930 6 21 0 3 0 1941 11 1 0 1 c 1944 4
 13 0 3 R 1990 1 1 0 3 0 1990 7 1 2 2 0 1992 3 20 0 2 c 1994 5 1 0 3 c 1996 3 31 0s 3 1 1996 10 27
 3s 3 0 1997 3 0L 1u 2 E 2014 3 30 2 4 0 2014 10 26 2s 3 0;
Europe/Sofia 1:33:16 0 1880 1 1 0 1:56:56 0 1894 11 30 0 2 0 1942 11 2 3 1 c 1945 1 1 0 1 0 1945 4
 2 3 2 0 1979 3 31 23 2 BG 1982 9 26 3 2 c 1991 1 1 0 2 e 1997 1 1 0 2 E;
Europe/Tallinn 1:39 0 1880 1 1 0 1:39 0 1918 2 1 0 1 c 1919 7 1 0 1:39 0 1921 5 1 0 2 0 1940 8 6 0
 3 0 1941 9 15 0 1 c 1944 9 22 0 3 R 1989 3 26 2s 2 1 1989 9 24 2s 2 c 1998 9 22 0 2 E 1999 10 31 4
 2 0 2002 2 21 0 2 E;
Europe/Tirane 1:19:20 0 1914 1 1 0 1 0 1940 6 16 0 1 q 1984 7 1 0 1 E;
Europe/Ulyanovsk 3:13:36 0 1919 7 1 0u 3 0 1930 6 21 0 4 R 1989 3 26 2s 3 R 1991 3 31 2s 2 R 1992 1
 19 2s 3 R 2011 3 27 2s 4 0 2014 10 26 2s 3 0 2016 3 27 2s 4 0;
Europe/Vienna 1:5:21 0 1893 4 1 0 1 c 1920 1 1 0 1 a 1940 4 1 2s 1 c 1945 4 2 2s 1 1 1945 4 12 2s 1
 0 1946 1 1 0 1 a 1981 1 1 0 1 E;
Europe/Vilnius 1:41:16 0 1880 1 1 0 1:24 0 1917 1 1 0 1:35:36 0 1919 10 10 0 1 0 1920 7 12 0 2 0
 1920 10 9 0 1 0 1940 8 3 0 3 0 1941 6 24 0 1 c 1944 8 1 0 3 R 1989 3 26 2s 2 R 1991 9 29 2s 2 c
 1998 1 1 0 2 0 1998 3 29 1u 1 E 1999 10 31 1u 2 0 2003 1 1 0 2 E;
Europe/Volgograd 2:57:40 0 1920 1 3 0 3 0 1930 6 21 0 4 0 1961 11 11 0 4 R 1988 3 27 2s 3 R 1991 3
 31 2s 4 0 1992 3 29 2s 3 R 2011 3 27 2s 4 0 2014 10 26 2s 3 0 2018 10 28 2s 4 0 2020 12 27 2s 3 0;
Europe/Warsaw 1:24 0 1880 1 1 0 1:24 0 1915 8 5 0 1 c 1918 9 16 3 2 O 1922 6 1 0 1 O 1940 6 23 2 1
 c 1944 10 1 0 1 O 1977 1 1 0 1 W- 1988 1 1 0 1 E;
Europe/Zurich 0:34:8 0 1853 7 16 0 0:29:46 0 1894 6 1 0 1 CH 1981 1 1 0 1 E;
Indian/Chagos 4:49:40 0 1907 1 1 0 5 0 1996 1 1 0 6 0;
Indian/Maldives 4:54 0 1880 1 1 0 4:54 0 1960 1 1 0 5 0;
Indian/Mauritius 3:50 0 1907 1 1 0 4 MU;
Pacific/Apia 12:33:4 0 1892 7 5 0 -11:26:56 0 1911 1 1 0 -11:30 0 1950 1 1 0 -11 WS 2011 12 29 24
 13 WS;
Pacific/Auckland 11:39:4 0 1868 11 2 0 11:30 NZ 1946 1 1 0 12 NZ;
Pacific/Bougainville 10:22:16 0 1880 1 1 0 9:48:32 0 1895 1 1 0 10 0 1942 7 1 0 9 0 1945 8 21 0 10
 0 2014 12 28 2 11 0;
Pacific/Chatham 12:13:48 0 1868 11 2 0 12:15 0 1946 1 1 0 12:45 k;
Pacific/Easter -7:17:28 0 1890 1 1 0 -7:17:28 0 1932 9 1 0 -7 x 1982 3 14 3u -6 x;
Pacific/Efate 11:13:16 0 1912 1 13 0 11 VU;
Pacific/Fakaofo -11:24:56 0 1901 1 1 0 -11 0 2011 12 30 0 13 0;
Pacific/Fiji 11:55:44 0 1915 10 26 0 12 FJ;
Pacific/Galapagos -5:58:24 0 1931 1 1 0 -5 0 1986 1 1 0 -6 EC;
Pacific/Gambier -8:59:48 0 1912 10 1 0 -9 0;
Pacific/Guadalcanal 10:39:48 0 1912 10 1 0 11 0;
Pacific/Guam -14:21 0 1844 12 31 0 9:39 0 1901 1 1 0 10 0 1941 12 10 0 9 0 1944 7 31 0 10 Gu 2000
 12 23 0 10 0;
Pacific/Honolulu -10:31:26 0 1896 1 13 12 -10:30 0 1933 4 30 2 -10:30 1 1933 5 21 12 -10:30 u 1947
 6 8 2 -10 0;
Pacific/Kanton 0 0 1937 8 31 0 -12 0 1979 10 1 0 -11 0 1994 12 31 0 13 0;
Pacific/Kiritimati -10:29:20 0 1901 1 1 0 -10:40 0 1979 10 1 0 -10 0 1994 12 31 0 14 0;
Pacific/Kosrae -13:8:4 0 1844 12 31 0 10:51:56 0 1901 1 1 0 11 0 1914 10 1 0 9 0 1919 2 1 0 11 0
 1937 1 1 0 10 0 1941 4 1 0 9 0 1945 8 1 0 11 0 1969 10 1 0 12 0 1999 1 1 0 11 0;
Pacific/Kwajalein 11:9:20 0 1901 1 1 0 11 0 1937 1 1 0 10 0 1941 4 1 0 9 0 1944 2 6 0 11 0 1969 10
 1 0 -12 0 1993 8 20 24 12 0;
Pacific/Marquesas -9:18 0 1912 10 1 0 -9:30 0;
Pacific/Nauru 11:7:40 0 1921 1 15 0 11:30 0 1942 8 29 0 9 0 1945 9 8 0 11:30 0 1979 2 10 2 12 0;
Pacific/Niue -11:19:40 0 1952 10 16 0 -11:20 0 1964 7 1 0 -11 0;
Pacific/Norfolk 11:11:52 0 1901 1 1 0 11:12 0 1951 1 1 0 11:30 0 1974 10 27 2s 11:30 1 1975 3 2 2s
 11:30 0 2015 10 4 2s 11 0 2019 7 1 0 11 AN;
Pacific/Noumea 11:5:48 0 1912 1 13 0 11 NC;
Pacific/Pago_Pago 12:37:12 0 1892 7 5 0 -11:22:48 0 1911 1 1 0 -11 0;
Pacific/Palau -15:2:4 0 1844 12 31 0 8:57:56 0 1901 1 1 0 9 0;
Pacific/Pitcairn -8:40:20 0 1901 1 1 0 -8:30 0 1998 4 27 0 -8 0;
Pacific/\x50ort_Moresby 9:48:40 0 1880 1 1 0 9:48:32 0 1895 1 1 0 10 0;
Pacific/Rarotonga 13:20:56 0 1899 12 26 0 -10:39:4 0 1952 10 16 0 -10:30 0 1978 11 12 0 -10 CK;
Pacific/Tahiti -9:58:16 0 1912 10 1 0 -10 0;
Pacific/Tarawa 11:32:4 0 1901 1 1 0 12 0;
Pacific/Tongatapu 12:19:12 0 1945 9 10 0 12:20 0 1961 1 1 0 13 0 1999 1 1 0 13 TO"

end LookupJoin.Zone
